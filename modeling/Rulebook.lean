import Rulebook.Main
import Rulebook.Proofs.RuleTable
import Rulebook.Proofs.Reading
import Rulebook.Proofs.Verdict
import Rulebook.Proofs.Writing
import Rulebook.Proofs.CheckFault
import Rulebook.Proofs.Unanswered
import Rulebook.Proofs.Refusal
import Rulebook.Proofs.OrderedMap
import Rulebook.Proofs.Loading
import Rulebook.Proofs.FirstEntry
import Rulebook.Proofs.ListProblems
import Rulebook.Proofs.StrictLoading
import Rulebook.Proofs.ReadShort
import Rulebook.Proofs.LenientLoading
import Rulebook.Proofs.SharedRegistry
import Rulebook.Proofs.Splitting
import Rulebook.Proofs.RuleText
import Rulebook.Proofs.RuleOrder
import Rulebook.Proofs.FaultlessList
import Rulebook.Proofs.ExitStatus
import Rulebook.Proofs.Reload
import Rulebook.Proofs.Independence
import Rulebook.Proofs.Segments
import Rulebook.Proofs.Culprit
import Rulebook.Proofs.NumeralGrammar
import Rulebook.Proofs.ArgumentValue
import Rulebook.Proofs.SingleCheck
import Rulebook.Proofs.Formats
import Rulebook.Proofs.Hostnames
import Rulebook.Proofs.UriFront
import Rulebook.Proofs.WholeTexts
import Rulebook.Proofs.Multiples
import Rulebook.Proofs.Interchange
import Rulebook.Proofs.Conjunction
import Rulebook.Proofs.Allowance
import Rulebook.Proofs.Rounding
import Rulebook.Proofs.ShownDecimal
import Rulebook.Proofs.DecimalTexts
import Rulebook.Proofs.FlagTexts
import Rulebook.Proofs.MemberLists
import Rulebook.Proofs.Trimming
import Rulebook.Proofs.Addresses
import Rulebook.Proofs.ListedValue
import Rulebook.Proofs.CheckNames
import Rulebook.Proofs.FailedCall
import Rulebook.Proofs.ListReport
import Rulebook.Proofs.ProblemsByKey
