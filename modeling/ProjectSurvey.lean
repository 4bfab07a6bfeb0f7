import ProjectSurvey.Main
import ProjectSurvey.Loggers
import ProjectSurvey.Proofs.CallFaults
import ProjectSurvey.Proofs.SurveyAgreement
import ProjectSurvey.Proofs.TreeChange
import ProjectSurvey.Proofs.UsageWrite
import ProjectSurvey.Proofs.LogInfluence
import ProjectSurvey.Proofs.JsonStrings
import ProjectSurvey.Proofs.JsonNumbers
import ProjectSurvey.Proofs.JsonReading
import ProjectSurvey.Proofs.AnswerPayload
import ProjectSurvey.Proofs.CommandLines
import ProjectSurvey.Proofs.ServiceRequests
import ProjectSurvey.Proofs.FrontEnds
import ProjectSurvey.Proofs.WalkOrder
import ProjectSurvey.Proofs.LoweredText
import ProjectSurvey.Proofs.LoweredOccurrences
import ProjectSurvey.Proofs.SmallText
import ProjectSurvey.Proofs.TermWindow
import ProjectSurvey.Proofs.TermSnippets
import ProjectSurvey.Proofs.VerbatimSearch
import ProjectSurvey.Proofs.RelativePaths
import ProjectSurvey.Proofs.FileLocality
import ProjectSurvey.Proofs.SubtreeSurvey
import ProjectSurvey.Proofs.PathWays
import ProjectSurvey.Proofs.ExcludedDirectories
import ProjectSurvey.Proofs.CallEvents
import ProjectSurvey.Proofs.RequestDispatch
import ProjectSurvey.Proofs.FileContents
import ProjectSurvey.Proofs.UsageLines
import ProjectSurvey.Proofs.UsageRuns
import ProjectSurvey.Proofs.ScanAgreement
import ProjectSurvey.Proofs.ConfigFaults
import ProjectSurvey.Proofs.LoggerRouting
import ProjectSurvey.Proofs.DirectoryMaking
import ProjectSurvey.Proofs.PlaceLikeness
import ProjectSurvey.Proofs.CallRecords
import ProjectSurvey.Proofs.CommandRecords
import ProjectSurvey.Proofs.DeclarationSnippets
import ProjectSurvey.Proofs.PatternFits
import ProjectSurvey.Proofs.ImportScan
import ProjectSurvey.Proofs.ComponentNames
import ProjectSurvey.Proofs.WritableText
import ProjectSurvey.Proofs.MarkupText
import ProjectSurvey.Proofs.ReportTexts
import ProjectSurvey.Proofs.ReportRuns
import ProjectSurvey.Proofs.HookNames
import ProjectSurvey.Proofs.RoleOrder
import ProjectSurvey.Proofs.Tally
import ProjectSurvey.Proofs.LanguageStages
import ProjectSurvey.Proofs.ExtensionVote
import ProjectSurvey.Proofs.WalkedPaths
import ProjectSurvey.Proofs.CommonImports
import ProjectSurvey.Proofs.PatternSections
import ProjectSurvey.Proofs.ImportRelevance
import ProjectSurvey.Proofs.IdiomExamples
import ProjectSurvey.Proofs.SearchSummary
import ProjectSurvey.Proofs.LinkFollowing
import ProjectSurvey.Proofs.CanonicalPaths
import ProjectSurvey.Proofs.ConfigFiles
import ProjectSurvey.Proofs.WellFormedBytes
import ProjectSurvey.Proofs.SourceReading
