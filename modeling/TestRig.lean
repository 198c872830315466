import TestRig.Main
import TestRig.Proofs.FailedBuild
import TestRig.Proofs.WorkerPool
import TestRig.Proofs.Layering
import TestRig.Proofs.MarkerExpansion
import TestRig.Proofs.FileIndex
import TestRig.Proofs.TextScan
import TestRig.Proofs.UnityOutput
import TestRig.Proofs.DependencyFiles
import TestRig.Proofs.ResultFiles
import TestRig.Proofs.PrototypeText
import TestRig.Proofs.CommentBlanking
import TestRig.Proofs.DigestInput
import TestRig.Proofs.RuleShadowing
import TestRig.Proofs.ClosedExpressions
import TestRig.Proofs.TestExtraction
import TestRig.Proofs.PeakConcurrency
import TestRig.Proofs.MarkerScan
import TestRig.Proofs.EnvironmentSetting
import TestRig.Proofs.NumericBudgets
import TestRig.Proofs.Session
import TestRig.Proofs.Summary
import TestRig.Proofs.StagePools
import TestRig.Proofs.Stages
import TestRig.Proofs.TestKeys
import TestRig.Proofs.Execution
import TestRig.Proofs.BuildSummary
import TestRig.Proofs.ObjectCache
import TestRig.Proofs.Interleaving
