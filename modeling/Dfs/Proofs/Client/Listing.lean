import Dfs.Proofs.Client.Basic
import Dfs.Proofs.Naming.Queries
import Dfs.Proofs.Text.Order
import Dfs.Proofs.Transport.Frames
import Mathlib.Data.List.Forall2
import Mathlib.Data.List.Nodup

/-!
What a client shows of a directory. A name is the name of a component, so the slash behind a
directory is no part of it (`withoutSlash_entryText`), and every name in a listing leads to
something that is there (`exists_entry`). The command therefore gets an answer for each name,
and the names can be told from the lines again.

`list_faithful`: the lines for a directory, for any naming service that answers.
-/

namespace Dfs

namespace Command

variable {σ α β : Type} {s : σ}

theorem mapM_of_ok {act : α → Command σ β} {result : α → β} {as : List α}
    (done : ∀ a ∈ as, act a s = (.ok (result a), s)) :
    as.mapM act s = (.ok (as.map result), s) := by
  induction as with
  | nil => rfl
  | cons a as ih =>
      have later := ih fun b mem => done b (List.mem_cons_of_mem a mem)
      rw [List.mapM_cons, bind_of_ok (done a List.mem_cons_self), bind_of_ok later]
      rfl

end Command

namespace Client

open Command

variable {σ : Type} {client : Client σ} {reg : Registry} {d q : Path} {s : σ} {name : String}
  {names : NameSet}

/-- The naming service answers what is needed to list a directory: it gives its own answers,
and errors as some error. -/
structure Answered (client : Client σ) (reg : Registry) (d : Path) (s : σ) : Prop where
  listed : ∀ names, reg.list d = .ok names →
    Call.list client.call client.naming d s = (.ok names, s)
  refused : ∀ e, reg.list d = .error e →
    ∃ e', Call.list client.call client.naming d s = (.error e', s)
  told : ∀ n isDir, reg.isDirectory (d.child n) = .ok isDir →
    Call.isDirectory client.call client.naming (d.child n) s = (.ok isDir, s)

/-! ### Lines -/

/-- The line for an entry: its name, and a slash if it is a directory. -/
def entryText (reg : Registry) (d : Path) (name : String) : String :=
  match d.join name with
  | .ok q => if reg.isDirectory q = .ok true then name ++ "/" else name
  | .error _ => name

/-- The line without the slash at its end, if there is one. -/
def withoutSlash (line : String) : String :=
  if line.toList.getLast? = some separator then String.ofList line.toList.dropLast else line

theorem entryText_of_join (joined : d.join name = .ok q) :
    entryText reg d name = if reg.isDirectory q = .ok true then name ++ "/" else name := by
  rw [entryText, joined]

theorem getLast?_ne_separator (joined : d.join name = .ok q) :
    name.toList.getLast? ≠ some separator := by
  obtain ⟨n, rfl, -⟩ := Path.join_eq_ok_iff.mp joined
  exact fun last => n.separator_not_mem (List.mem_of_getLast? last)

/-- A line ends in a slash if it is for a directory. -/
theorem getLast?_entryText_iff (joined : d.join name = .ok q) :
    (entryText reg d name).toList.getLast? = some separator ↔ reg.isDirectory q = .ok true := by
  rw [entryText_of_join joined]
  split
  · next dir => simp [dir, separator]
  · next other => simp [getLast?_ne_separator joined, other]

/-- The name is the line without the slash. -/
theorem withoutSlash_entryText (joined : d.join name = .ok q) :
    withoutSlash (entryText reg d name) = name := by
  rw [entryText_of_join joined]
  split
  · simp [withoutSlash, separator]
  · rw [withoutSlash, if_neg (getLast?_ne_separator joined)]

/-- A name in a listing is that of an entry, which is a directory or is none. -/
theorem exists_entry (listed : reg.list d = .ok names) (mem : name ∈ names) :
    ∃ n isDir, n.text = name ∧ d.join name = .ok (d.child n) ∧
      reg.isDirectory (d.child n) = .ok isDir := by
  obtain ⟨q, joined, there⟩ := (Registry.mem_list_iff listed).mp mem
  obtain ⟨n, named, rfl⟩ := Path.join_eq_ok_iff.mp joined
  rcases reg.answers (d.child n) with absent | file | dir
  · rw [absent.contains] at there
    cases there
  · exact ⟨n, false, named, joined, file.isDirectory⟩
  · exact ⟨n, true, named, joined, dir.isDirectory⟩

/-! ### The command -/

section Listed

variable (answered : Answered client reg d s)

include answered

theorem entryLine_of_mem (listed : reg.list d = .ok names) (mem : name ∈ names) :
    entryLine client d name s = (.ok (entryText reg d name), s) := by
  obtain ⟨n, isDir, -, joined, answer⟩ := exists_entry listed mem
  have asked := ask_of_ok (answered.told n isDir answer)
  have known : (d.join name).mapError (fun e => Failure.error e.toError) = .ok (d.child n) := by
    rw [joined]
    rfl
  rw [entryLine, known, bind_lift_ok, bind_of_ok asked, entryText_of_join joined, answer]
  cases isDir <;> rfl

/-- A directory is listed with a line for each entry. -/
theorem list_of_directory {text : String} (parsed : Path.parse text = .ok d)
    (listed : reg.list d = .ok names) :
    client.list text s = (.ok (names.toList.map (entryText reg d)), s) := by
  have asked := ask_of_ok (answered.listed names listed)
  rw [list, readPath_of_parse parsed, bind_lift_ok, bind_of_ok (during_of_ok asked)]
  exact mapM_of_ok fun name mem => entryLine_of_mem answered listed mem

theorem list_of_error {text : String} {e : Error} (parsed : Path.parse text = .ok d)
    (refused : reg.list d = .error e) :
    ∃ failure, client.list text s = (.error failure, s) := by
  obtain ⟨e', answer⟩ := answered.refused e refused
  have asked := ask_of_error answer
  refine ⟨.during (.list d) (.error e'), ?_⟩
  rw [list, readPath_of_parse parsed, bind_lift_ok, bind_of_error (during_of_error asked)]

end Listed

/-- The lines for the entries of a directory. -/
structure Shows (reg : Registry) (d : Path) (names : NameSet) (lines : List String) : Prop where
  /-- One line for each name, in the order of the bytes of the names. -/
  ordered : names.toList.Pairwise fun a b => Utf8.encode a < Utf8.encode b
  each : List.Forall₂ (fun name line => ∃ q, d.join name = .ok q ∧
    (reg.isDirectory q = .ok true ∧ line = name ++ "/" ∨
      reg.isDirectory q = .ok false ∧ line = name)) names.toList lines
  /-- The names are what is left without the slashes. -/
  cut : lines.map withoutSlash = names.toList
  distinct : lines.Nodup
  /-- Slashes are behind directories, and nowhere else. -/
  slash : ∀ line ∈ lines, ∃ q, d.join (withoutSlash line) = .ok q ∧
    (line.toList.getLast? = some separator ↔ reg.isDirectory q = .ok true)

theorem shows_entryText (listed : reg.list d = .ok names) :
    Shows reg d names (names.toList.map (entryText reg d)) := by
  have cut : (names.toList.map (entryText reg d)).map withoutSlash = names.toList := by
    rw [List.map_map]
    refine (List.map_congr_left fun name mem => ?_).trans (List.map_id _)
    obtain ⟨n, -, -, joined, -⟩ := exists_entry listed mem
    exact withoutSlash_entryText joined
  have names_nodup : names.toList.Nodup := names.sorted.imp fun {a b} before same => by
    subst same
    exact StrictTotal.irrefl a before
  exact
    { ordered := names.sorted.imp fun before => Utf8.encode_lt_encode before
      each := by
        rw [List.forall₂_map_right_iff, List.forall₂_same]
        intro name mem
        obtain ⟨n, isDir, -, joined, answer⟩ := exists_entry listed mem
        refine ⟨_, joined, ?_⟩
        rw [entryText_of_join joined, answer]
        cases isDir <;> simp
      cut := cut
      distinct := List.Nodup.of_map withoutSlash (by rwa [cut])
      slash := by
        intro line mem
        obtain ⟨name, inside, rfl⟩ := List.mem_map.mp mem
        obtain ⟨n, -, -, joined, -⟩ := exists_entry listed inside
        exact ⟨_, (withoutSlash_entryText joined).symm ▸ joined, getLast?_entryText_iff joined⟩ }

/-- Whatever a naming service knows, if it answers, a path is listed exactly if it is a
directory, with one line for each name in it; the lines tell the names, and which of them
are directories. Nothing is changed. -/
theorem list_faithful {text : String} (parsed : Path.parse text = .ok d)
    (answered : Answered client reg d s) :
    ((∃ lines, (client.list text s).1 = .ok lines) ↔ reg.isDirectory d = .ok true) ∧
    (client.list text s).2 = s ∧
    ∀ lines, (client.list text s).1 = .ok lines →
      ∃ names, reg.list d = .ok names ∧ Shows reg d names lines := by
  have directory : reg.isDirectory d = .ok true ↔ ∃ names, reg.list d = .ok names := by
    rw [Registry.isDirectory, mapError_eq_ok_iff, Namespace.isDirectory_eq_true_iff,
      ← Namespace.exists_list_iff, Registry.list]
    cases reg.names.list d <;> simp
  cases found : reg.list d with
  | ok names =>
      have done := list_of_directory answered parsed found
      refine ⟨iff_of_true ⟨_, congrArg Prod.fst done⟩ (directory.mpr ⟨names, found⟩), by rw [done],
        fun lines shown => ⟨names, rfl, ?_⟩⟩
      rw [done] at shown
      exact Except.ok.inj shown ▸ shows_entryText found
  | error e =>
      obtain ⟨failure, failed⟩ := list_of_error answered parsed found
      refine ⟨iff_of_false ?_ ?_, by rw [failed], fun lines shown => ?_⟩
      · simp [failed]
      · rw [directory, found]
        simp
      · rw [failed] at shown
        cases shown

/-! ### In a cluster -/

/-- A naming service that can be reached answers, as long as no message is too long. -/
theorem answered_of_reached {naming : Address} {c : Cluster}
    (reached : c.network.connect naming = .ok (.naming .service))
    (small : (Utf8.encode (Request.list d).text).length ≤ Frame.maxLength)
    (short : ∀ names, c.registry.list d = .ok names → Connection.Sendable (.ok (.names names)))
    (inside : ∀ n, c.registry.contains (d.child n) = true →
      (Utf8.encode (Request.isDirectory (d.child n)).text).length ≤ Frame.maxLength) :
    Answered (Cluster.client naming) c.registry d c where
  listed := by
    intro names listed
    have direct : Operation.directly Cluster.fromNaming 0 ⟨[]⟩ (.list d) c = (.ok names, c) := by
      simp only [Operation.directly, Operation.onRegistry, listed]
    exact Operation.remotely_of_ok reached (Operation.flowFree_request (.list d) (by simp)) small
      direct (short names listed)
  refused := by
    intro e refused
    have direct : Operation.directly Cluster.fromNaming 0 ⟨[]⟩ (.list d) c = (.error e, c) := by
      simp only [Operation.directly, Operation.onRegistry, refused]
    exact Operation.remotely_of_error reached (Operation.flowFree_request (.list d) (by simp)) small
      direct
  told := by
    intro n isDir answer
    have there : c.registry.contains (d.child n) = true := by
      rcases c.registry.answers (d.child n) with absent | file | dir
      · rw [absent.isDirectory] at answer
        cases answer
      · exact file.contains
      · exact dir.contains
    have direct : Operation.directly Cluster.fromNaming 0 ⟨[]⟩ (.isDirectory (d.child n)) c =
        (.ok isDir, c) := by
      simp only [Operation.directly, Operation.onRegistry, answer]
    exact Operation.remotely_of_ok reached
      (Operation.flowFree_request (.isDirectory (d.child n)) (by simp)) (inside n there) direct
      (Reply.small_bool isDir)

/-- A directory beside the file of the node. -/
def besideHome : Namespace :=
  ⟨[(⟨"docs", by decide⟩, .dir []), (Cluster.nameF, .leaf Cluster.nodeAt)]⟩

theorem list_faithful_home :
    let c := Cluster.alone Cluster.homeDisk Cluster.home.root besideHome
    Path.parse "/" = .ok .root ∧ Answered (Cluster.client Cluster.serviceAt) c.registry .root c ∧
      c.registry.isDirectory .root = .ok true ∧
      ∃ lines names, ((Cluster.client Cluster.serviceAt).list "/" c).1 = .ok lines ∧
        c.registry.list .root = .ok names ∧ Shows c.registry .root names lines ∧
        lines.map withoutSlash = ["docs", "f"] := by
  intro c
  have parsed : Path.parse "/" = .ok .root := by decide
  have listed : c.registry.list .root = .ok (.ofList ["docs", "f"]) := by decide
  have answered : Answered (Cluster.client Cluster.serviceAt) c.registry .root c := by
    refine answered_of_reached rfl (by decide +kernel) (fun names listed' => ?_) fun n there => ?_
    · obtain rfl := Except.ok.inj (listed.symm.trans listed')
      decide +kernel
    · have mem := (Registry.mem_list_iff listed).mpr
        ⟨_, Path.join_eq_ok_iff.mpr ⟨n, rfl, rfl⟩, there⟩
      rw [SortedSet.mem_ofList, List.mem_cons, List.mem_singleton] at mem
      rcases mem with isDocs | isF
      · obtain rfl : n = ⟨"docs", by decide⟩ := Name.ext_text isDocs
        decide +kernel
      · obtain rfl : n = ⟨"f", by decide⟩ := Name.ext_text isF
        decide +kernel
  obtain ⟨succeeds, -, shows⟩ := list_faithful parsed answered
  obtain ⟨lines, done⟩ := succeeds.mpr rfl
  obtain ⟨names, listed', shown⟩ := shows lines done
  refine ⟨parsed, answered, rfl, lines, names, done, listed', shown, ?_⟩
  obtain rfl := Except.ok.inj (listed.symm.trans listed')
  exact shown.cut

end Client

end Dfs
