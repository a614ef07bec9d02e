import EditableProfile.Wire.View
import EditableProfile.Inbox
import EditableProfile.Config
import EditableProfile.Screen
import EditableProfile.Proofs.EditorHistory
import EditableProfile.Proofs.DeskInterleaving
import EditableProfile.Proofs.ViewOffers
import EditableProfile.Proofs.ShelfHistory
import EditableProfile.Proofs.EditorGrammar
import EditableProfile.Proofs.SaveForwarding
import EditableProfile.Proofs.EntryReading
import EditableProfile.Proofs.UnsavedText
import EditableProfile.Proofs.WireRoundTrip
import EditableProfile.Proofs.EditorIdentity
import EditableProfile.Proofs.ViewDriving
import EditableProfile.Proofs.ViewContent
import EditableProfile.Proofs.MountedScreen
import EditableProfile.Proofs.JsonSpelling
import EditableProfile.Proofs.LayerTransparency
import EditableProfile.Proofs.SpelledReading
import EditableProfile.Proofs.RecordMembers
import EditableProfile.Proofs.ActionMembers
import EditableProfile.Proofs.CutText
import EditableProfile.Proofs.ConfigLoading
import EditableProfile.Proofs.ChangeUndo
import EditableProfile.Proofs.NamedChanges
import EditableProfile.Proofs.MarkupReading
import EditableProfile.Proofs.MarkupTokens
import EditableProfile.Proofs.CardStructure
