import CheckoutLint.Main
import CheckoutLint.Memory
import CheckoutLint.Proofs.PathTable.Arrangement
import CheckoutLint.Proofs.PathTable.LongestMatch
import CheckoutLint.Proofs.Tool.Spelling
import CheckoutLint.Proofs.LinkReport.RoundTrip
import CheckoutLint.Proofs.LinkReport.Disclosure
import CheckoutLint.Proofs.LinkReport.Marks
import CheckoutLint.Proofs.Octets.Agreement
import CheckoutLint.Proofs.Text.LineEnds
import CheckoutLint.Proofs.Acronym.Runs
import CheckoutLint.Proofs.Pass.Stages
import CheckoutLint.Proofs.Pass.Operations
import CheckoutLint.Proofs.Checkout.StoredText
import CheckoutLint.Proofs.Checkout.Independence
import CheckoutLint.Proofs.Checkout.History
import CheckoutLint.Proofs.Checkout.TempPaths
import CheckoutLint.Proofs.Disk.Listing
import CheckoutLint.Proofs.Acronym.Reported
import CheckoutLint.Proofs.Acronym.Pattern
import CheckoutLint.Proofs.VariableTypo.Positions
import CheckoutLint.Proofs.Report.Agreement
import CheckoutLint.Proofs.Checkout.Materializing
import CheckoutLint.Proofs.CopyrightTemplate.Notices
import CheckoutLint.Proofs.Leftover.Names
import CheckoutLint.Proofs.CommandLine.Selected
import CheckoutLint.Proofs.Report.ReadBack
import CheckoutLint.Proofs.Settings.Discovery
