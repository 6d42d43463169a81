import DialogueScript.Main
import DialogueScript.Proofs.MatchOrder
import DialogueScript.Proofs.PatternMatching
import DialogueScript.Proofs.SilentTwins
import DialogueScript.Proofs.EndlessRedirects
import DialogueScript.Proofs.PairedSelection
import DialogueScript.Proofs.KeptMatchers
import DialogueScript.Proofs.IndependentUsers
import DialogueScript.Proofs.OpeningGate
import DialogueScript.Proofs.CatchAll
import DialogueScript.Proofs.StagedLoading
import DialogueScript.Proofs.RejectedScripts
import DialogueScript.Proofs.CommentLines
import DialogueScript.Proofs.GrowingTopics
import DialogueScript.Proofs.TopicCycles
import DialogueScript.Proofs.JoinedScripts
import DialogueScript.Proofs.AncestorLookup
import DialogueScript.Proofs.MemoryLookup
import DialogueScript.Proofs.WildcardRank
import DialogueScript.Proofs.TransparentRedirects
import DialogueScript.Proofs.RememberedAnswers
import DialogueScript.Proofs.DepthLimit
import DialogueScript.Proofs.SessionHistory
import DialogueScript.Proofs.LearnedFacts
import DialogueScript.Proofs.TraceAccounts
import DialogueScript.Proofs.ScriptLayout
import DialogueScript.Proofs.LocalPublishing
import DialogueScript.Proofs.SubstitutionScan
import DialogueScript.Proofs.ShortestStars
import DialogueScript.Proofs.WeightRank
import DialogueScript.Proofs.VariableTags
import DialogueScript.Proofs.Comparisons
import DialogueScript.Proofs.LessonAgreement
import DialogueScript.Proofs.FirstTurn
import DialogueScript.Proofs.InlineComments
import DialogueScript.Proofs.ObjectBlocks
import DialogueScript.Proofs.WrittenPatterns
import DialogueScript.Proofs.WarningOrder
import DialogueScript.Proofs.JoinedValues
import DialogueScript.Proofs.MessageForm
import DialogueScript.Proofs.DefinedValues
import DialogueScript.Proofs.DiscoveryOrder
