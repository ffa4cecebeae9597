import ArgTable.Main
import ArgTable.Proofs.Acceptance
import ArgTable.Proofs.Apart
import ArgTable.Proofs.ArgumentOrder
import ArgTable.Proofs.Belonging
import ArgTable.Proofs.BothSteps
import ArgTable.Proofs.BrokenLines
import ArgTable.Proofs.BuiltTables
import ArgTable.Proofs.DeclaredArguments
import ArgTable.Proofs.FirstLiterals
import ArgTable.Proofs.ForwardedTokens
import ArgTable.Proofs.FullDestinations
import ArgTable.Proofs.HiddenProperties
import ArgTable.Proofs.InstallValues
import ArgTable.Proofs.JournalRuns
import ArgTable.Proofs.JsonGrammar
import ArgTable.Proofs.JsonTexts
import ArgTable.Proofs.Judgements
import ArgTable.Proofs.KeyPatterns
import ArgTable.Proofs.LenientTables
import ArgTable.Proofs.Lists
import ArgTable.Proofs.LogLines
import ArgTable.Proofs.LoggedMessages
import ArgTable.Proofs.LoggedTexts
import ArgTable.Proofs.LongestLiterals
import ArgTable.Proofs.LookedUpValues
import ArgTable.Proofs.MarkedVerbs
import ArgTable.Proofs.NoticeKinds
import ArgTable.Proofs.PhaseNotices
import ArgTable.Proofs.PlainTexts
import ArgTable.Proofs.PreparedAnalyses
import ArgTable.Proofs.ProgramEndings
import ArgTable.Proofs.PropertyLists
import ArgTable.Proofs.PropertyProblems
import ArgTable.Proofs.QuotedTexts
import ArgTable.Proofs.ReadLogs
import ArgTable.Proofs.ReadValues
import ArgTable.Proofs.ReportDocuments
import ArgTable.Proofs.RunReports
import ArgTable.Proofs.ShadowedArguments
import ArgTable.Proofs.ShownRecords
import ArgTable.Proofs.ShownTexts
import ArgTable.Proofs.StartedBuilds
import ArgTable.Proofs.Tallies
import ArgTable.Proofs.TokenChoices
import ArgTable.Proofs.TokenOrder
import ArgTable.Proofs.UserTables
import ArgTable.Proofs.ValueNotices
import ArgTable.Proofs.VerblessStarts
import ArgTable.Proofs.WrittenOptions
import ArgTable.Proofs.WrittenProperties
