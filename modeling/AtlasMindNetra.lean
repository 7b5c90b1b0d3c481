import AtlasMindNetra.AgendaDecomposer
import AtlasMindNetra.AnalysisCache
import AtlasMindNetra.AnalysisFreshness
import AtlasMindNetra.AnalysisIsolation
import AtlasMindNetra.BlockedDays
import AtlasMindNetra.BriefingFailures
import AtlasMindNetra.BriefingInterruption
import AtlasMindNetra.BriefingProgress
import AtlasMindNetra.BriefingSources
import AtlasMindNetra.BriefingTermination
import AtlasMindNetra.BriefingTexts
import AtlasMindNetra.ClarificationBound
import AtlasMindNetra.ClientBoundary
import AtlasMindNetra.ConfluenceOutage
import AtlasMindNetra.ConventionFile
import AtlasMindNetra.ConventionMemory
import AtlasMindNetra.ConventionWrites
import AtlasMindNetra.Conversations
import AtlasMindNetra.CqlStructure
import AtlasMindNetra.DeliveredBriefings
import AtlasMindNetra.DeliveryEffort
import AtlasMindNetra.DetailsBatching
import AtlasMindNetra.FetchConcurrency
import AtlasMindNetra.FetchSerialisation
import AtlasMindNetra.IsolatedRuns
import AtlasMindNetra.IssueKeyParser
import AtlasMindNetra.IssuesTable
import AtlasMindNetra.ListSettings
import AtlasMindNetra.MalformedFiles
import AtlasMindNetra.PageBudget
import AtlasMindNetra.PageCoherence
import AtlasMindNetra.PageIds
import AtlasMindNetra.PageLookups
import AtlasMindNetra.PassageRelevance
import AtlasMindNetra.PathAgreement
import AtlasMindNetra.PinnedPages
import AtlasMindNetra.PipelineProgress
import AtlasMindNetra.PromptRuns
import AtlasMindNetra.QueryReportReading
import AtlasMindNetra.QuerySequence
import AtlasMindNetra.QueryWiring
import AtlasMindNetra.RankingOrder
import AtlasMindNetra.ReferenceAttribution
import AtlasMindNetra.ReferenceDuplicates
import AtlasMindNetra.ReportIdFilter
import AtlasMindNetra.ReportStructure
import AtlasMindNetra.ResultPassing
import AtlasMindNetra.SearchConstraints
import AtlasMindNetra.SearchHits
import AtlasMindNetra.SectionCap
import AtlasMindNetra.ServerRestarts
import AtlasMindNetra.ServerTools
import AtlasMindNetra.StoreEquivalence
import AtlasMindNetra.StoredSessions
import AtlasMindNetra.TermDetection
import AtlasMindNetra.UiDisplay
import AtlasMindNetra.ValkeyStores
