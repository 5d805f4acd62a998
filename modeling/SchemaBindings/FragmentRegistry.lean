import SchemaBindings.Document.Definition
import SchemaBindings.OrderedMap

/-!
The fragments that spreads may refer to.
-/

namespace SchemaBindings

/-- A fragment, and whether the code for it is generated elsewhere. -/
structure LoadedFragment where
  fragment : Fragment
  isExternal : Bool
  deriving Repr, Inhabited

/-- The fragments of a document. -/
def LoadedFragment.ofDocument (document : Document) (isExternal : Bool) : List LoadedFragment :=
  document.fragments.map fun fragment => { fragment, isExternal }

/-- Fragments by name. -/
abbrev FragmentRegistry := OrderedMap String LoadedFragment

namespace FragmentRegistry

/-- The registry of the given fragments; of several with one name the first is kept. -/
def ofFragments (fragments : List LoadedFragment) : FragmentRegistry :=
  fragments.foldl (fun registry loaded => registry.insertNew loaded.fragment.name loaded) ∅

/-- The fragments of a document, then those that are external. So a fragment of the document wins
over an external one of its name. -/
def ofDocument (document : Document) (external : List LoadedFragment) : FragmentRegistry :=
  ofFragments (LoadedFragment.ofDocument document false ++ external)

end FragmentRegistry

end SchemaBindings
