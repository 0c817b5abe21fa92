import ShapedObjects.Session
import ShapedObjects.Json.Form
import ShapedObjects.Proofs.Interning
import ShapedObjects.Proofs.AttributeMap
import ShapedObjects.Proofs.CacheSafety
import ShapedObjects.Proofs.Widening
import ShapedObjects.Proofs.SiteStates
import ShapedObjects.Proofs.Transparency
import ShapedObjects.Proofs.TypedStores
import ShapedObjects.Proofs.Sharing
import ShapedObjects.Proofs.Independence
import ShapedObjects.Proofs.TransitionTree
import ShapedObjects.Proofs.DenseLayouts
import ShapedObjects.Proofs.Moves
import ShapedObjects.Proofs.Traces
import ShapedObjects.Proofs.Statistics
import ShapedObjects.Proofs.Observers
import ShapedObjects.Proofs.SharedLayouts
import ShapedObjects.Proofs.WithinLimits
import ShapedObjects.Proofs.Refusals
import ShapedObjects.Proofs.Migration
import ShapedObjects.Proofs.SavedData
import ShapedObjects.Proofs.HeapRefusals
import ShapedObjects.Proofs.JsonForms
import ShapedObjects.Proofs.JsonTexts
import ShapedObjects.Proofs.JsonTokens
import ShapedObjects.Proofs.Extension
import ShapedObjects.Proofs.SlotLaws
import ShapedObjects.Proofs.CommutingSteps
import ShapedObjects.Proofs.HotSites
