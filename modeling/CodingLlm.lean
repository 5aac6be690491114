import CodingLlm.Scripts.UnionRoots
import CodingLlm.Scripts.LeaseExclusion
import CodingLlm.Scripts.PublicationTotals
import CodingLlm.Pretrain.TrainingAuthority
import CodingLlm.Scripts.SupplyQualification
import CodingLlm.Pretrain.FinalizerResumes
import CodingLlm.Scripts.AdmittedRuns
import CodingLlm.Pretrain.WaiverReceipt
import CodingLlm.Pretrain.ReleasePackage
import CodingLlm.Scripts.LshSignatures
import CodingLlm.Posttrain.ChatAttribution
import CodingLlm.Scripts.PreflightSample
import CodingLlm.Pretrain.SplitIndependence
import CodingLlm.Scripts.KeepBitmapRoundTrip
import CodingLlm.Pretrain.CacheAgreement
import CodingLlm.Scripts.DocumentIndexAudit
import CodingLlm.Scripts.TargetRows
import CodingLlm.Scripts.PipelineBounds
import CodingLlm.Posttrain.CodingSmokeScores
import CodingLlm.Scripts.BenchmarkEmbedding
import CodingLlm.Pretrain.RowAllocation
import CodingLlm.Posttrain.CodeExtraction
import CodingLlm.Scripts.PackedBoundaries
import CodingLlm.Pretrain.PhaseSplit
import CodingLlm.Scripts.SplitGroups
