import Dfs.Proofs.Message.Parts
import Dfs.Proofs.Path.Relative
import Dfs.Proofs.Store.Inventory

/-!
The grammar of paths. A component is any text that is not empty and has neither a slash nor a colon
in it (`IsComponent`). Whatever a path is made from, its components are such texts and no others:
those between the slashes of a text that is read (`texts_of_parse`), the one that is joined, those
of a host path. So a path is read back from all the forms in which it is written (`Canonical`).
-/

namespace Dfs

/-- A text that a path may have between its slashes. -/
def IsComponent (text : String) : Prop :=
  text ≠ "" ∧ separator ∉ text.toList ∧ delimiter ∉ text.toList

theorem isComponent_iff {text : String} : IsComponent text ↔ ∃ n : Name, n.text = text := by
  unfold IsComponent
  constructor
  · rintro ⟨nonempty, noSeparator, noDelimiter⟩
    exact ⟨⟨text, Name.isValid_iff.mpr ⟨by simpa using nonempty, noSeparator, noDelimiter⟩⟩, rfl⟩
  · rintro ⟨n, rfl⟩
    exact ⟨by simpa using n.toList_ne_nil, n.separator_not_mem, n.delimiter_not_mem⟩

namespace Path

/-- The texts of the components, in order. -/
def texts (p : Path) : List String := p.components.map Name.text

variable {p q : Path}

theorem texts_injective : Function.Injective texts := by
  intro p q same
  have named : Function.Injective Name.text := fun _ _ => Name.ext_text
  exact ext_components (named.list_map same)

theorem texts_child (p : Path) (n : Name) : (p.child n).texts = p.texts ++ [n.text] := by
  simp [texts, child]

theorem isRoot_iff_texts : p.isRoot = true ↔ p.texts = [] := by
  rw [isRoot_iff]
  exact List.map_eq_nil_iff.symm

/-! ### Ways to make a path -/

/-- The pieces of a text between slashes that are not empty. -/
def segments (text : String) : List String :=
  ((text.toList.splitOn separator).filter (· ≠ [])).map String.ofList

theorem exists_parse_iff {text : String} : (∃ p, parse text = .ok p) ↔
    text.toList.head? = some separator ∧ delimiter ∉ text.toList := by
  unfold parse
  split
  · next relative => simp [relative]
  next absolute =>
  split
  · next reserved => simp [reserved]
  · next free => simpa [free] using absolute

/-- Where there is no colon, every piece between slashes is a name, unless it is empty. -/
theorem name_of_mem_splitAt {chars piece : List Char} (free : delimiter ∉ chars)
    (cut : piece ∈ splitAt separator chars) :
    (Name.ofString? (String.ofList piece)).map Name.text =
      if piece ≠ [] then some (String.ofList piece) else none := by
  by_cases empty : piece = []
  · subst empty
    rfl
  · have component : IsComponent (String.ofList piece) := by
      unfold IsComponent
      rw [String.toList_ofList]
      exact ⟨by simpa using empty, fun mem => (mem_of_mem_splitAt cut mem).2 rfl,
        fun mem => free (mem_of_mem_splitAt cut mem).1⟩
    obtain ⟨n, spelled⟩ := isComponent_iff.mp component
    rw [if_pos empty, ← spelled, Name.ofString?_text, Option.map_some]

/-- So no piece is lost but those that are empty. -/
theorem texts_of_parse {text : String} (read : parse text = .ok p) : p.texts = segments text := by
  obtain ⟨absolute, free⟩ := exists_parse_iff.mp ⟨p, read⟩
  rw [parse, if_neg (not_not.mpr absolute), if_neg free] at read
  obtain rfl := Except.ok.inj read
  rw [texts, segments, ← splitAt_eq_splitOn, List.map_filterMap, ← List.filterMap_eq_map,
    List.filterMap_filter]
  apply List.filterMap_congr
  intro piece cut
  rw [name_of_mem_splitAt free cut]
  simp

theorem join_eq_ok_iff_texts {text : String} :
    p.join text = .ok q ↔ IsComponent text ∧ q.texts = p.texts ++ [text] := by
  rw [join_eq_ok_iff, isComponent_iff]
  constructor
  · rintro ⟨n, rfl, rfl⟩
    exact ⟨⟨n, rfl⟩, texts_child p n⟩
  · rintro ⟨⟨n, rfl⟩, spelled⟩
    exact ⟨n, rfl, texts_injective (spelled.trans (texts_child p n).symm)⟩

theorem parent_eq_ok_iff_texts : p.parent = .ok q ↔ ∃ text, p.texts = q.texts ++ [text] := by
  constructor
  · intro up
    obtain ⟨n, rfl⟩ := exists_eq_child_of_parent up
    exact ⟨n.text, texts_child q n⟩
  · rintro ⟨text, spelled⟩
    have notRoot : p.isRoot = false := by
      rw [← Bool.not_eq_true, isRoot_iff_texts, spelled]
      simp
    obtain ⟨d, n, rfl⟩ := exists_eq_child notRoot
    have same := (List.append_inj' ((texts_child d n).symm.trans spelled) rfl).1
    obtain rfl := texts_injective same
    exact parent_child d n

theorem ofRelative_eq_ok_iff_texts {h : HostPath} : ofRelative h = .ok p ↔
    h.bytes.head? ≠ some HostPath.slash ∧ HostPath.dotDot ∉ splitAt HostPath.slash h.bytes ∧
      p.texts.map Utf8.encode = HostPath.readable (splitAt HostPath.slash h.bytes) := by
  rw [ofRelative_eq_ok_iff, texts, List.map_map]
  rfl

/-- What is listed are the files below the root, each read from where it is. -/
theorem exists_ofRelative_of_inventory {st : Store} {files : PathSet}
    (taken : st.inventory = .ok files) (mem : p ∈ files) :
    ∃ place, ofRelative ⟨Disk.joined place⟩ = .ok p := by
  have found : ∃ entries, st.disk.stat st.root = .ok (.dir entries) := by
    unfold Store.inventory at taken
    split at taken
    · split at taken <;> cases taken
    · cases taken
    · next entries found => exact ⟨entries, found⟩
  obtain ⟨entries, found⟩ := found
  obtain ⟨-, paths⟩ := Store.listed_of_inventory found taken
  obtain ⟨x, -, made⟩ := (paths p).mp mem
  obtain ⟨place, content, -, read⟩ := Store.exists_file_of_listed made
  exact ⟨place, read⟩

theorem path?_eq_some_iff {j : Json} :
    j.path? = some p ↔ ∃ text, j = .ofString text ∧ parse text = .ok p := by
  unfold Json.path?
  rw [Option.bind_eq_bind, Option.bind_eq_some_iff]
  refine exists_congr fun text => and_congr ?_ ?_
  · cases j <;> simp [Json.string?, Json.ofString]
  · cases parse text <;> simp [Except.toOption]

/-! ### Every path -/

/-- However a path has been made, its components are components, it is read back from its text,
which no other path has, and from its JSON, and its parent and last component are undone by joining
and undo it. -/
structure Canonical (p : Path) : Prop where
  components : ∀ text ∈ p.texts, IsComponent text
  read : parse p.text = .ok p
  unique : ∀ q : Path, q.text = p.text → q = p
  decoded : (Json.parse? (Json.ofPath p).text).bind Json.path? = some p
  join : ∀ text, IsComponent text →
    ∃ q, p.join text = .ok q ∧ q.parent = .ok p ∧ q.last.map Name.text = .ok text
  parent : p.isRoot = false →
    ∃ d n, p.parent = .ok d ∧ p.last = .ok n ∧ d.join n.text = .ok p

theorem text_injective : Function.Injective text := by
  intro p q same
  have read := parse_text p
  rw [same, parse_text q] at read
  exact (Except.ok.inj read).symm

theorem last_child (d : Path) (n : Name) : (d.child n).last = .ok n := by
  simp [last, child]

theorem canonical (p : Path) : p.Canonical where
  components text mem := by
    obtain ⟨n, -, rfl⟩ := List.mem_map.mp mem
    exact isComponent_iff.mpr ⟨n, rfl⟩
  read := parse_text p
  unique q same := text_injective same
  decoded := by
    rw [Json.parse?_text (.path p), Option.bind_some, Json.path?_ofPath]
  join text component := by
    obtain ⟨n, rfl⟩ := isComponent_iff.mp component
    refine ⟨p.child n, join_eq_ok_iff.mpr ⟨n, rfl, rfl⟩, parent_child p n, ?_⟩
    rw [last_child]
    rfl
  parent notRoot := by
    obtain ⟨d, n, rfl⟩ := exists_eq_child notRoot
    exact ⟨d, n, parent_child d n, last_child d n, join_eq_ok_iff.mpr ⟨n, rfl, rfl⟩⟩

/-- A text is a path exactly if it begins with a slash and has no colon in it, and what is not empty
between its slashes is the path. Nothing but components gets into a path by any other way either:
by a join, a parent, a host path, a listing of files or JSON. -/
theorem grammar_exact :
    (∀ text : String,
      ((∃ p, parse text = .ok p) ↔
        text.toList.head? = some separator ∧ delimiter ∉ text.toList) ∧
      ∀ p, parse text = .ok p → p.texts = segments text) ∧
    (∀ (p q : Path) (text : String),
      p.join text = .ok q ↔ IsComponent text ∧ q.texts = p.texts ++ [text]) ∧
    (∀ p q : Path, p.parent = .ok q ↔ ∃ text, p.texts = q.texts ++ [text]) ∧
    (∀ (h : HostPath) (p : Path), ofRelative h = .ok p ↔
      h.bytes.head? ≠ some HostPath.slash ∧ HostPath.dotDot ∉ splitAt HostPath.slash h.bytes ∧
        p.texts.map Utf8.encode = HostPath.readable (splitAt HostPath.slash h.bytes)) ∧
    (∀ (st : Store) (files : PathSet), st.inventory = .ok files →
      ∀ p ∈ files, ∃ place, ofRelative ⟨Disk.joined place⟩ = .ok p) ∧
    (∀ (j : Json) (p : Path),
      j.path? = some p ↔ ∃ text, j = .ofString text ∧ parse text = .ok p) ∧
    ∀ p : Path, p.Canonical := by
  refine ⟨fun text => ⟨exists_parse_iff, fun p read => texts_of_parse read⟩,
    fun p q text => join_eq_ok_iff_texts, fun p q => parent_eq_ok_iff_texts,
    fun h p => ofRelative_eq_ok_iff_texts, ?_, fun j p => path?_eq_some_iff, canonical⟩
  intro st files taken p mem
  exact exists_ofRelative_of_inventory taken mem

/-- A disk with the file `/r/a`, served from `r`. -/
def fileInRoot : Store := ⟨⟨[0x72]⟩, { top := [([0x72], .dir [([0x61], .leaf (.file .empty))])] }⟩

theorem inventory_fileInRoot :
    fileInRoot.inventory = .ok (.ofList [⟨[⟨"a", by decide⟩]⟩]) := by
  have found : fileInRoot.disk.stat fileInRoot.root =
      .ok (.dir [([0x61], .leaf (.file .empty))]) := by rfl
  have inside : [] ++ Store.subdirectories [] [([0x61], .leaf (.file .empty))] = [] := by rfl
  rw [Store.inventory_of_found found, Store.visit_of_named (by decide) rfl, inside,
    Store.visit_nil]
  rfl

/-- A text with more slashes than it needs, and `.` as a component. -/
theorem grammar_exact_of_slashes :
    (∃ p, parse "//a/./" = .ok p ∧ p.texts = ["a", "."] ∧
      (∃ q, p.join "b" = .ok q ∧ q.parent = .ok p ∧ q.last.map Name.text = .ok "b") ∧
      ∃ d n, p.parent = .ok d ∧ p.last = .ok n ∧ d.join n.text = .ok p) ∧
    ∃ files, fileInRoot.inventory = .ok files ∧
      ∀ p ∈ files, ∃ place, ofRelative ⟨Disk.joined place⟩ = .ok p := by
  obtain ⟨parsed, -, -, -, listed, -, every⟩ := grammar_exact
  constructor
  · obtain ⟨p, read⟩ := (parsed "//a/./").1.mpr (by decide)
    have spelled : p.texts = ["a", "."] := (parsed "//a/./").2 p read
    have notRoot : p.isRoot = false := by
      rw [← Bool.not_eq_true, isRoot_iff_texts, spelled]
      simp
    exact ⟨p, read, spelled, (every p).join "b" (by unfold IsComponent; decide),
      (every p).parent notRoot⟩
  · exact ⟨_, inventory_fileInRoot, listed _ _ inventory_fileInRoot⟩

end Path

end Dfs
