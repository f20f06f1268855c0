import ScreenPages.Main
import ScreenPages.Proofs.Aim
import ScreenPages.Proofs.Freshness
import ScreenPages.Proofs.Reentrancy
import ScreenPages.Proofs.Cutting
import ScreenPages.Proofs.Matching
import ScreenPages.Proofs.Address
import ScreenPages.Proofs.Mirror
import ScreenPages.Proofs.Insertion
import ScreenPages.Proofs.Unrelated
import ScreenPages.Proofs.Wrapping
import ScreenPages.Proofs.Described
import ScreenPages.Proofs.Recognition
import ScreenPages.Proofs.Conduct
import ScreenPages.Proofs.Sharing
import ScreenPages.Proofs.Quiet
import ScreenPages.Proofs.Reporting
import ScreenPages.Proofs.Polling
import ScreenPages.Proofs.Failing
import ScreenPages.Proofs.PrintedSource
import ScreenPages.Proofs.Declining
import ScreenPages.Proofs.Dumps
import ScreenPages.Proofs.Preview
import ScreenPages.Proofs.Missing
import ScreenPages.Proofs.Hittable
import ScreenPages.Proofs.Repeating
import ScreenPages.Proofs.Outline
import ScreenPages.Proofs.Rediscovery
import ScreenPages.Proofs.Interleaving
import ScreenPages.Proofs.Stillness
import ScreenPages.Proofs.Chronicle
import ScreenPages.Proofs.Copies
import ScreenPages.Proofs.Acceptance
import ScreenPages.Proofs.Decisive
import ScreenPages.Proofs.Storing
