import BlankUse.Main
import BlankUse.Session
import BlankUse.Proofs.DoubleToggle
import BlankUse.Proofs.Reformatting
import BlankUse.Proofs.OnlyUsages
import BlankUse.Proofs.Cancellation
import BlankUse.Proofs.OtherTool
import BlankUse.Proofs.Transcript
import BlankUse.Proofs.Spans
import BlankUse.Proofs.RepeatedRemoval
import BlankUse.Proofs.BufferRuns
import BlankUse.Proofs.References
import BlankUse.Proofs.SafeSettings
import BlankUse.Proofs.Loading
import BlankUse.Proofs.Characters
