import SceneLoad.Command.Run
import SceneLoad.Main
import SceneLoad.Proofs.Maps
import SceneLoad.Proofs.Preorder
import SceneLoad.Proofs.Dependencies
import SceneLoad.Proofs.InstanceKeys
import SceneLoad.Proofs.RuntimeIds
import SceneLoad.Proofs.Merge
import SceneLoad.Proofs.Duplicates
import SceneLoad.Proofs.DecodedEntries
import SceneLoad.Proofs.MissingPrefab
import SceneLoad.Proofs.Records
import SceneLoad.Proofs.MergedPayloads
import SceneLoad.Proofs.StartingIds
import SceneLoad.Proofs.Seeds
import SceneLoad.Proofs.KeySupplies
import SceneLoad.Proofs.EditedTemplates
import SceneLoad.Proofs.Providers
import SceneLoad.Proofs.BadComponents
import SceneLoad.Proofs.Exhaustion
import SceneLoad.Proofs.AuthoredKeys
import SceneLoad.Proofs.ScannedText
import SceneLoad.Proofs.CycleSearch
import SceneLoad.Proofs.RegistrationOrder
import SceneLoad.Proofs.WrittenForms
import SceneLoad.Proofs.RemainingIds
import SceneLoad.Proofs.DecodedRecords
import SceneLoad.Proofs.DecimalIndices
import SceneLoad.Proofs.PatchParts
import SceneLoad.Proofs.PatchGrammar
import SceneLoad.Proofs.PatchSpellings
import SceneLoad.Proofs.CarriedPatches
import SceneLoad.Proofs.PatchedInstances
import SceneLoad.Proofs.FaultPaths
import SceneLoad.Proofs.AuthoredTransforms
import SceneLoad.Proofs.PrintedLines
import SceneLoad.Proofs.CommandLines
import SceneLoad.Proofs.PrefabFates
import SceneLoad.Proofs.ReportedSubjects
import SceneLoad.Proofs.AllocatorRuns
import SceneLoad.Proofs.RoundTrips
import SceneLoad.Proofs.TemplateSizes
