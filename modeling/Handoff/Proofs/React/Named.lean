import Handoff.Generation.Code
import Handoff.Proofs.Naming.Spelled
import Handoff.Proofs.React.Bindings
import Handoff.Proofs.React.Drawings

/-!
# The names of props, imports and files

A component names its props and its imports for layers.  Each name is new among those of its kind,
and is in use from then on, so along a whole tree the names of a kind are those that a row of layers
is given.  Files are named for what they hold and have one extension.

* `used_bindNode`, `used_of`     the names of props, step by step and for a tree;
* `files_add`, `files_of`        the names of imports and of their files;
* `IsFileName`                   letters and digits, and an extension;
* `Request.names_given`          how names are given, and how files are named.
-/

namespace Handoff
namespace React
open Naming StyledNode

/-! ## props -/

namespace Props
variable (assets : Assets)

/-- the layers that a node asks a name for: once for its text, and once for its image -/
def layersOf (n : StyledNode) : List String :=
  ((textOf? n.toStyledData).map fun _ => n.name).toList
    ++ ((imageOf? assets n).map fun _ => n.name).toList

theorem used_bindNode (ps : Props) (n : StyledNode) :
    (bindNode assets ps n).used
      = (given freshIdentifier ps.used (layersOf assets n)).reverse ++ ps.used := by
  unfold bindNode layersOf
  rw [bindImage_eq, bindText_eq]
  cases textOf? n.toStyledData <;> cases imageOf? assets n <;> rfl

theorem used_foldl (nodes : List StyledNode) : ∀ ps : Props,
    (nodes.foldl (bindNode assets) ps).used
      = (given freshIdentifier ps.used (nodes.flatMap (layersOf assets))).reverse ++ ps.used := by
  induction nodes with
  | nil => intro ps; rfl
  | cons n nodes ih =>
    intro ps
    rw [List.foldl_cons, ih, used_bindNode, List.flatMap_cons, given_append, List.reverse_append,
      List.append_assoc]

/-- the names of the props of a tree, the last one first -/
theorem used_of (root : StyledNode) :
    (of assets root).used
      = (given freshIdentifier [] (root.offered.flatMap (layersOf assets))).reverse := by
  rw [of, add_eq_foldl, used_foldl, List.append_nil]

end Props

/-! ## imports -/

/-- the name under which a file is imported, and its own -/
def ExportedFile.names (f : ExportedFile) : String × String := (f.importName, f.filename)

/-- a file is named for its import -/
def drawingFile (x : String) : String × String := (x, x ++ ".svg")

namespace Drawings
variable (assets : Assets)

theorem files_add (ds : Drawings) (n : StyledData) :
    (ds.add .exported assets n).files.map ExportedFile.names
      = ds.files.map ExportedFile.names
        ++ [drawingFile (freshVariable (ds.files.map ExportedFile.importName) n.name)] :=
  List.map_append

theorem importNames_add (ds : Drawings) (n : StyledData) :
    (ds.add .exported assets n).files.map ExportedFile.importName
      = ds.files.map ExportedFile.importName
        ++ [freshVariable (ds.files.map ExportedFile.importName) n.name] := List.map_append

theorem files_foldl (nodes : List StyledData) : ∀ ds : Drawings,
    (nodes.foldl (add .exported assets) ds).files.map ExportedFile.names
      = ds.files.map ExportedFile.names
        ++ (given freshVariable (ds.files.map ExportedFile.importName)
          (nodes.map StyledData.name)).map drawingFile := by
  induction nodes with
  | nil => intro ds; exact (List.append_nil _).symm
  | cons n nodes ih =>
    intro ds
    -- the names in use stand in another order here than in a row of names
    have reorder (x : String) (used : List String) :
        given freshVariable (used ++ [x]) (nodes.map StyledData.name)
          = given freshVariable (x :: used) (nodes.map StyledData.name) :=
      givesNames_freshVariable.given_congr _ fun y => by simp [or_comm]
    rw [List.foldl_cons, ih, files_add, importNames_add, reorder, List.map_cons, given,
      List.map_cons, List.append_assoc]
    rfl

/-- the imports and the files of a tree -/
theorem files_of (root : StyledNode) :
    (of .exported assets root).files.map ExportedFile.names
      = (given freshVariable [] ((drawnNodes root).map StyledData.name)).map drawingFile := by
  rw [of, files_foldl, visited_root]
  rfl

theorem files_inlined (nodes : List StyledData) : ∀ ds : Drawings,
    (nodes.foldl (add .inlined assets) ds).files = ds.files := by
  induction nodes with
  | nil => intro ds; rfl
  | cons n nodes ih => intro ds; exact ih _

end Drawings

/-! ## files -/

/-- a stem and an extension of letters and digits, and a dot between them -/
def IsFileName (extension name : String) : Prop :=
  ∃ stem, name = stem ++ "." ++ extension ∧ stem ≠ "" ∧
    ∀ c ∈ (stem ++ extension).toList, Chars.isAsciiAlnum c = true

theorem isFileName_of_isWord {first : Char → Bool} {stem extension : String}
    (h : IsWord first stem.toList) (hf : ∀ c, first c = true → Chars.isAsciiAlnum c = true)
    (known : extension.toList.all Chars.isAsciiAlnum = true) :
    IsFileName extension (stem ++ "." ++ extension) := by
  refine ⟨stem, rfl, ?_, ?_⟩
  · rintro rfl
    obtain ⟨c, rest, e, -⟩ := h
    cases e
  · rw [String.toList_append]
    exact List.forall_mem_append.mpr ⟨h.alnum hf, List.all_eq_true.mp known⟩

/-- the files beside a component are named for variables -/
theorem isFileName_of_mem (mode : SvgMode) (assets : Assets) (root : StyledNode)
    {f : ExportedFile} (hf : f ∈ (Drawings.of mode assets root).files) :
    IsFileName "svg" f.filename := by
  cases mode with
  | inlined =>
    rw [Drawings.of, Drawings.files_inlined] at hf
    cases hf
  | exported =>
    have named := List.mem_map_of_mem (f := ExportedFile.names) hf
    rw [Drawings.files_of] at named
    obtain ⟨x, hx, same⟩ := List.mem_map.mp named
    obtain ⟨used, layer, rfl⟩ := mem_given hx
    have word := givesNames_freshVariable.spelled used layer
    have dotted : f.filename = freshVariable used layer ++ "." ++ "svg" := by
      rw [← (Prod.mk.inj same).2, String.append_assoc]
      rfl
    rw [dotted]
    exact isFileName_of_isWord word (fun _ => Chars.isAsciiAlnum_of_lower) rfl

end React

namespace Request
open Naming React

theorem componentName_codeWith (r : Request) (assets : Assets) :
    (r.codeWith assets).componentName = r.componentName := by
  unfold codeWith
  dsimp only
  split <;> rfl

/-- **Names are new, well spelled and distinct.**  A prop gets the first of the names for its layer
that no prop has, after at most as many steps as there are props; in the same way an import gets the
first that no import has.  This name and no other is in use from then on, so that the names for a row
of layers are pairwise distinct, and those for the layers of a tree are such a row.  They begin with
a lower-case letter and go on with letters and digits, as the names of components do with an
upper-case one, whatever the layers are called; so files have no dots or separators but for the dot
in front of the extension. -/
theorem names_given (r : Request) (assets : Assets) :
    (GivesNames identifierBase freshIdentifier ∧
      (∀ (ps : Props) (id layer : String) (kind : PropKind) (default : String),
        (ps.bind id layer kind default).used = freshIdentifier ps.used layer :: ps.used) ∧
      (Props.of assets r.root).used
        = (given freshIdentifier [] (r.root.offered.flatMap (Props.layersOf assets))).reverse) ∧
    (GivesNames variableBase freshVariable ∧
      (∀ (ds : Drawings) (n : StyledData) (content : String),
        (ds.addFile n content).files.map ExportedFile.importName
          = ds.files.map ExportedFile.importName
            ++ [freshVariable (ds.files.map ExportedFile.importName) n.name]) ∧
      (Drawings.of .exported assets r.root).files.map ExportedFile.importName
        = given freshVariable [] ((drawnNodes r.root).map StyledData.name)) ∧
    (∀ name, IsWord Chars.isAsciiUpper (pascal name).toList) ∧
    (∀ f ∈ (r.codeWith assets).files, IsFileName "svg" f.filename) ∧
    IsFileName r.framework.language
      ((r.codeWith assets).componentName ++ "." ++ r.framework.language) := by
  refine ⟨⟨givesNames_freshIdentifier, fun _ _ _ _ _ => rfl, Props.used_of assets r.root⟩,
    ⟨givesNames_freshVariable, fun _ _ _ => List.map_append, ?_⟩, isWord_pascal, fun f hf => ?_, ?_⟩
  · have names := congrArg (List.map Prod.fst) (Drawings.files_of assets r.root)
    rw [List.map_map, List.map_map] at names
    exact names.trans (List.map_id _)
  · unfold codeWith at hf
    dsimp only at hf
    split at hf
    · exact isFileName_of_mem r.options.svgMode assets r.root hf
    · exact isFileName_of_mem r.options.svgMode assets r.root hf
    · cases hf
  · rw [componentName_codeWith]
    refine isFileName_of_isWord (isWord_pascal _) (fun _ => Chars.isAsciiAlnum_of_upper) ?_
    cases r.framework <;> rfl

end Request
end Handoff
