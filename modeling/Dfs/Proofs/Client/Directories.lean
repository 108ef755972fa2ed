import Dfs.Proofs.Client.Basic

/-!
Directories that a client makes. On the way to a path a directory is made, or found, at
one step after another (`ensureDirectory_of_absent`, `ensureDirectory_of_dir`), until a file
is in the way (`ensureDirectory_of_file`). What is above a file is a directory already, so
nothing has been made when that happens (`makeSteps`).

`makeDirectory_exact`: what a command that makes directories does, in every case.
-/

namespace Dfs.Client

open Command Cluster

variable {naming : Address} {c : Cluster} {p : Path}

/-! ### One step -/

section Step

variable (reached : c.network.connect naming = .ok (.naming .service))
  (small : (Utf8.encode (Request.createDirectory p).text).length ≤ Frame.maxLength)

include reached small

/-- One directory is made where nothing was. -/
theorem asked_createDirectory_of_checked (absent : c.registry.names.kindAt? p = none)
    (checked : c.registry.checkParent p = .ok ()) :
    ∃ names, ask (Call.createDirectory Cluster.call naming p) c =
        (.ok true, { c with registry := { c.registry with names } }) ∧
      ∀ q, names.kindAt? q = if q = p then some .dir else c.registry.names.kindAt? q := by
  obtain ⟨names, created, kinds⟩ := Registry.createDirectory_of_checked absent checked
  have direct : Operation.directly fromNaming 0 ⟨[]⟩ (.createDirectory p) c =
      (.ok true, { c with registry := { c.registry with names } }) := by
    simp only [Operation.directly, Operation.onRegistry, created]
  exact ⟨names, askedNaming_of_ok (.createDirectory p) reached small direct (Reply.small_bool true),
    kinds⟩

theorem asked_createDirectory_of_present (present : c.registry.names.kindAt? p ≠ none) :
    ask (Call.createDirectory Cluster.call naming p) c = (.ok false, c) := by
  have direct : Operation.directly fromNaming 0 ⟨[]⟩ (.createDirectory p) c = (.ok false, c) := by
    simp only [Operation.directly, Operation.onRegistry,
      Registry.createDirectory_of_present present]
  exact askedNaming_of_ok (.createDirectory p) reached small direct (Reply.small_bool false)

theorem asked_createDirectory_of_unchecked (absent : c.registry.names.kindAt? p = none)
    (unchecked : c.registry.checkParent p ≠ .ok ()) :
    ∃ e, ask (Call.createDirectory Cluster.call naming p) c = (.error (.error e), c) := by
  obtain ⟨e, refused⟩ := Registry.createDirectory_of_unchecked absent unchecked
  have direct : Operation.directly fromNaming 0 ⟨[]⟩ (.createDirectory p) c = (.error e, c) := by
    simp only [Operation.directly, Operation.onRegistry, refused]
  exact askedNaming_of_error (.createDirectory p) reached small direct

theorem asked_isDirectory {isDir : Bool} (answer : c.registry.isDirectory p = .ok isDir) :
    ask (Call.isDirectory Cluster.call naming p) c = (.ok isDir, c) := by
  have direct : Operation.directly fromNaming 0 ⟨[]⟩ (.isDirectory p) c = (.ok isDir, c) := by
    simp only [Operation.directly, Operation.onRegistry, answer]
  have shorter : (Utf8.encode (Request.isDirectory p).text).length ≤
      (Utf8.encode (Request.createDirectory p).text).length := by
    have tags : Json.bytesOf (Json.quote "is_directory".toList) ≤
        Json.bytesOf (Json.quote "create_directory".toList) := by decide
    exact Request.length_text_of_path rfl rfl tags
  exact askedNaming_of_ok (.isDirectory p) reached (shorter.trans small) direct
    (Reply.small_bool isDir)

theorem ensureDirectory_of_absent (absent : c.registry.names.kindAt? p = none)
    (checked : c.registry.checkParent p = .ok ()) :
    ∃ names, ensureDirectory (client naming) p c =
        (.ok (), { c with registry := { c.registry with names } }) ∧
      ∀ q, names.kindAt? q = if q = p then some .dir else c.registry.names.kindAt? q := by
  obtain ⟨names, made, kinds⟩ := asked_createDirectory_of_checked reached small absent checked
  refine ⟨names, ?_, kinds⟩
  rw [ensureDirectory, bind_of_ok made]
  rfl

theorem ensureDirectory_of_dir (dir : c.registry.names.kindAt? p = some .dir) :
    ensureDirectory (client naming) p c = (.ok (), c) := by
  have found := asked_createDirectory_of_present reached small (by simp [dir])
  have seen := asked_isDirectory reached small (Registry.isDirectory_of_dir dir)
  rw [ensureDirectory, bind_of_ok found, if_neg (by simp), bind_of_ok seen]
  rfl

theorem ensureDirectory_of_file {h : Handle} (file : c.registry.names.kindAt? p = some (.leaf h)) :
    ensureDirectory (client naming) p c = (.error (.occupied p), c) := by
  have found := asked_createDirectory_of_present reached small (by simp [file])
  have seen := asked_isDirectory reached small (Registry.isDirectory_of_leaf file)
  rw [ensureDirectory, bind_of_ok found, if_neg (by simp), bind_of_ok seen]
  rfl

end Step

/-! ### All steps -/

theorem steps_child (d : Path) (n : Name) : steps (d.child n) = steps d ++ [d.child n] := by
  have deeper : (d.child n).depth = d.depth + 1 := by simp [Path.depth, Path.child]
  rw [steps, deeper, List.range_succ, List.map_append, steps]
  congr 1
  · refine List.map_congr_left fun i small => ?_
    have within : i + 1 ≤ d.components.length := List.mem_range.mp small
    rw [Path.child, List.take_append_of_le_length within]
  · have whole : (d.child n).components.length ≤ d.depth + 1 := deeper.le
    rw [List.map_singleton, List.take_of_length_le whole]

theorem forM_steps_child {σ : Type} (act : Path → Command σ Unit) (d : Path) (n : Name) :
    (steps (d.child n)).forM act = (steps d).forM act >>= fun _ => act (d.child n) := by
  have parts : (steps d ++ [d.child n]).forM act =
      (steps d).forM act >>= fun _ => [d.child n].forM act := List.forM_append
  have last : [d.child n].forM act = act (d.child n) := by
    refine List.forM_cons.trans ?_
    rw [List.forM_nil]
    exact bind_pure _
  rw [steps_child, parts, last]

theorem isUnder_child_iff {d q : Path} {n : Name} :
    (d.child n).isUnder q = true ↔ d.isUnder q = true ∨ q = d.child n := by
  rw [Path.isUnder_parent_iff (Path.parent_child d n)]
  constructor
  · intro lead
    by_cases same : q = d.child n
    · exact .inr same
    · exact .inl ⟨lead, same⟩
  · rintro (⟨lead, -⟩ | rfl)
    · exact lead
    · exact Path.isUnder_refl _

/-- No file leads to `p`, nor is one there. -/
def Unblocked (names : Namespace) (p : Path) : Prop :=
  ∀ q h, p.isUnder q = true → names.kindAt? q ≠ some (.leaf h)

/-- `names'` has directories at `p` and at all that leads to it, and is else as `names`. -/
def Leveled (names : Namespace) (p : Path) (names' : Namespace) : Prop :=
  ∀ q, names'.kindAt? q = if p.isUnder q then some .dir else names.kindAt? q

variable {names names' names'' : Namespace} {d q : Path} {n : Name}

theorem Unblocked.child (clear : Unblocked names d)
    (free : ∀ h, names.kindAt? (d.child n) ≠ some (.leaf h)) : Unblocked names (d.child n) := by
  intro q h lead file
  rcases isUnder_child_iff.mp lead with lead | rfl
  · exact clear q h lead file
  · exact free h file

theorem Leveled.child (leveled : Leveled names d names')
    (dir : names''.kindAt? (d.child n) = some .dir)
    (same : ∀ q, q ≠ d.child n → names''.kindAt? q = names'.kindAt? q) :
    Leveled names (d.child n) names'' := by
  intro q
  by_cases here : q = d.child n
  · rw [if_pos (isUnder_child_iff.mpr (.inr here)), here, dir]
  · rw [same q here, leveled]
    by_cases lead : d.isUnder q = true
    · rw [if_pos lead, if_pos (isUnder_child_iff.mpr (.inl lead))]
    · rw [if_neg lead, if_neg fun below => (isUnder_child_iff.mp below).elim lead here]

/-- How the steps to a path can end. -/
inductive Ended (p : Path) (c : Cluster) (outcome : Except Failure Unit × Cluster) : Prop where
  /-- All of them are directories now, and nothing else has changed. -/
  | made (names : Namespace) (clear : Unblocked c.registry.names p)
    (leveled : Leveled c.registry.names p names)
    (kept : c.registry.names.kindAt? p = some .dir → names = c.registry.names)
    (done : outcome = (.ok (), { c with registry := { c.registry with names } }))
  /-- One of them is a file, and nothing has changed. -/
  | blocked (blocked : ¬ Unblocked c.registry.names p) (failure : Failure)
    (failed : outcome = (.error failure, c))

theorem not_isUnder_child (d : Path) (n : Name) : ¬ d.isUnder (d.child n) = true := fun lead =>
  ((Path.isUnder_parent_iff (Path.parent_child d n)).mp lead).2 rfl

section Child

variable (reached : c.network.connect naming = .ok (.naming .service))
  (small : (Utf8.encode (Request.createDirectory (d.child n)).text).length ≤ Frame.maxLength)
  (clear : Unblocked c.registry.names d)

include reached small clear

/-- A step to where nothing was makes one more directory. -/
theorem ended_of_absent (leveled : Leveled c.registry.names d names)
    (absent : c.registry.names.kindAt? (d.child n) = none) :
    Ended (d.child n) c (ensureDirectory (client naming) (d.child n)
      { c with registry := { c.registry with names } }) := by
  have still : names.kindAt? (d.child n) = none := by
    rw [leveled, if_neg (not_isUnder_child d n), absent]
  have checked : { c.registry with names }.checkParent (d.child n) = .ok () := by
    refine Registry.checkParent_eq_ok_iff.mpr ⟨d, Path.parent_child d n, ?_⟩
    rw [leveled, if_pos (Path.isUnder_refl d)]
  obtain ⟨names', added, kinds⟩ := ensureDirectory_of_absent
    (c := { c with registry := { c.registry with names } }) reached small still checked
  refine .made names' (clear.child (by simp [absent])) (leveled.child ?_ fun q there => ?_)
    (by simp [absent]) added
  · rw [kinds, if_pos rfl]
  · rw [kinds, if_neg there]

/-- A step to what was there, when nothing has been made so far. -/
theorem ended_of_present (leveled : Leveled c.registry.names d c.registry.names)
    {kind : Kind Handle} (found : c.registry.names.kindAt? (d.child n) = some kind) :
    Ended (d.child n) c (ensureDirectory (client naming) (d.child n) c) := by
  cases kind with
  | dir =>
      exact .made c.registry.names (clear.child (by simp [found]))
        (leveled.child found fun _ _ => rfl) (fun _ => rfl)
        (ensureDirectory_of_dir reached small found)
  | leaf h =>
      have blocked : ¬ Unblocked c.registry.names (d.child n) := fun clear =>
        clear _ h (Path.isUnder_refl _) found
      exact .blocked blocked _ (ensureDirectory_of_file reached small found)

end Child

/-- The step to the entry `n` of a directory goes on where those to the directory end. -/
theorem Ended.step {act : Command Cluster Unit} (ended : Ended d c (act c))
    (reached : c.network.connect naming = .ok (.naming .service))
    (small : (Utf8.encode (Request.createDirectory (d.child n)).text).length ≤ Frame.maxLength) :
    Ended (d.child n) c ((act >>= fun _ => ensureDirectory (client naming) (d.child n)) c) := by
  cases ended with
  | blocked blocked failure failed =>
      have still : ¬ Unblocked c.registry.names (d.child n) := fun clear =>
        blocked fun q h lead => clear q h (isUnder_child_iff.mpr (.inl lead))
      exact .blocked still failure (bind_of_error failed _)
  | made names clear leveled kept done =>
      rw [bind_of_ok done]
      cases found : c.registry.names.kindAt? (d.child n) with
      | none => exact ended_of_absent reached small clear leveled found
      | some kind =>
          -- All that leads to what exists was there before, so nothing has been made so far.
          have above : (d.child n).isUnder d = true :=
            isUnder_child_iff.mpr (.inl (Path.isUnder_refl d))
          have other : d ≠ d.child n := fun same =>
            not_isUnder_child d n (same ▸ Path.isUnder_refl d)
          obtain rfl : names = c.registry.names :=
            kept (Namespace.kindAt?_of_isUnder above other (by simp [found]))
          exact ended_of_present reached small clear leveled found

theorem ended_steps (reached : c.network.connect naming = .ok (.naming .service))
    (small : (Utf8.encode (Request.createDirectory p).text).length ≤ Frame.maxLength) :
    Ended p c ((steps p).forM (ensureDirectory (client naming)) c) := by
  obtain ⟨names⟩ := p
  induction names using List.reverseRecOn with
  | nil =>
      have top : ∀ q : Path, Path.root.isUnder q = true → q.isRoot = true := by
        intro q lead
        exact Path.isRoot_iff.mpr (List.prefix_nil.mp (Path.isUnder_iff.mp lead))
      refine .made c.registry.names ?_ ?_ (fun _ => rfl) rfl
      · intro q h lead
        rw [Namespace.kindAt?_of_isRoot (top q lead)]
        simp
      · intro q
        split
        · next lead => exact Namespace.kindAt?_of_isRoot (top q lead)
        · rfl
  | append_singleton names n ih =>
      have above : (Path.child ⟨names⟩ n).isUnder ⟨names⟩ = true :=
        isUnder_child_iff.mpr (.inl (Path.isUnder_refl _))
      have shorter : (Utf8.encode (Request.createDirectory ⟨names⟩).text).length ≤
          (Utf8.encode (Request.createDirectory (Path.child ⟨names⟩ n)).text).length :=
        Request.length_text_of_lead rfl rfl above le_rfl
      have all := (ih (shorter.trans small)).step reached small
      rwa [← forM_steps_child] at all

/-! ### The command -/

/-- What a command does that makes `p` and all that leads to it: everything or nothing. -/
structure MakesAll (act : Command Cluster Unit) (p : Path) (c : Cluster) : Prop where
  /-- It succeeds unless a file is in the way. -/
  succeeds : (act c).1 = .ok () ↔
    ∀ q h, p.isUnder q = true → c.registry.names.kindAt? q ≠ some (.leaf h)
  /-- Then all that leads to `p`, and `p`, is a directory, and nothing else has changed. -/
  made : (act c).1 = .ok () → ∃ names,
    (act c).2 = { c with registry := { c.registry with names } } ∧
      ∀ q, names.kindAt? q = if p.isUnder q then some .dir else c.registry.names.kindAt? q
  /-- Once more, it succeeds and changes nothing. -/
  repeats : (act c).1 = .ok () → act (act c).2 = (.ok (), (act c).2)
  /-- If it fails, nothing has changed. -/
  refused : (act c).1 ≠ .ok () → (act c).2 = c

/-- What a command does that makes one directory. -/
structure MakesOne (act : Command Cluster Unit) (p : Path) (c : Cluster) : Prop where
  /-- It succeeds if nothing is there, in a directory. -/
  succeeds : (act c).1 = .ok () ↔ c.registry.names.kindAt? p = none ∧
    ∃ d, p.parent = .ok d ∧ c.registry.names.kindAt? d = some .dir
  /-- Then an empty directory is there, and nothing else has changed. -/
  made : (act c).1 = .ok () → ∃ names,
    (act c).2 = { c with registry := { c.registry with names } } ∧
      (∀ q, names.kindAt? q = if q = p then some .dir else c.registry.names.kindAt? q) ∧
      ∀ q, q.isUnder p = true → q ≠ p → names.kindAt? q = none
  refused : (act c).1 ≠ .ok () → (act c).2 = c

theorem makesAll {text : String} (reached : c.network.connect naming = .ok (.naming .service))
    (parsed : Path.parse text = .ok p)
    (small : (Utf8.encode (Request.createDirectory p).text).length ≤ Frame.maxLength) :
    MakesAll (makeDirectory (client naming) text true) p c := by
  have runs : makeDirectory (client naming) text true =
      (steps p).forM (ensureDirectory (client naming)) := by
    rw [makeDirectory, readPath_of_parse parsed, bind_lift_ok]
    rfl
  rw [runs]
  cases ended_steps reached small with
  | made names clear leveled kept done =>
      have dir : names.kindAt? p = some .dir := by
        rw [leveled, if_pos (Path.isUnder_refl p)]
      exact
        { succeeds := by simp only [done, true_iff]; exact clear
          made := fun _ => ⟨names, by rw [done], leveled⟩
          repeats := by
            intro _
            rw [done]
            cases ended_steps (c := { c with registry := { c.registry with names } }) reached
              small with
            | made names' _ _ kept' done' =>
                obtain rfl : names' = names := kept' dir
                exact done'
            | blocked blocked _ _ =>
                refine absurd (fun q h lead => ?_) blocked
                simp [leveled q, lead]
          refused := fun refused => absurd (by rw [done]) refused }
  | blocked blocked failure failed =>
      have error : ((steps p).forM (ensureDirectory (client naming)) c).1 ≠ .ok () := by
        simp [failed]
      exact
        { succeeds := ⟨fun done => absurd done error, fun clear => absurd clear blocked⟩
          made := fun done => absurd done error
          repeats := fun done => absurd done error
          refused := fun _ => by rw [failed] }

theorem MakesOne.of_refused {act : Command Cluster Unit} {failure : Failure}
    (failed : act c = (.error failure, c))
    (noRoom : ¬ (c.registry.names.kindAt? p = none ∧ c.registry.checkParent p = .ok ())) :
    MakesOne act p c := by
  have error : (act c).1 ≠ .ok () := by simp [failed]
  rw [Registry.checkParent_eq_ok_iff] at noRoom
  exact
    { succeeds := iff_of_false error noRoom
      made := fun done => absurd done error
      refused := fun _ => by rw [failed] }

theorem makesOne {text : String} (reached : c.network.connect naming = .ok (.naming .service))
    (parsed : Path.parse text = .ok p)
    (small : (Utf8.encode (Request.createDirectory p).text).length ≤ Frame.maxLength) :
    MakesOne (makeDirectory (client naming) text false) p c := by
  have runs : makeDirectory (client naming) text false =
      ask (Call.createDirectory Cluster.call naming p) >>= fun made =>
        if made = true then pure () else throw (.alreadyExists p.text) := by
    rw [makeDirectory, readPath_of_parse parsed, bind_lift_ok]
    rfl
  by_cases absent : c.registry.names.kindAt? p = none
  · by_cases checked : c.registry.checkParent p = .ok ()
    · obtain ⟨names, made, kinds⟩ := asked_createDirectory_of_checked reached small absent checked
      have done : makeDirectory (client naming) text false c =
          (.ok (), { c with registry := { c.registry with names } }) := by
        rw [runs, bind_of_ok made]
        rfl
      have ok : (makeDirectory (client naming) text false c).1 = .ok () := by rw [done]
      have empty : ∀ q, q.isUnder p = true → q ≠ p → names.kindAt? q = none := by
        intro q below other
        rw [kinds, if_neg other]
        exact Namespace.kindAt?_none_of_isUnder below absent
      exact
        { succeeds := iff_of_true ok ⟨absent, Registry.checkParent_eq_ok_iff.mp checked⟩
          made := fun _ => ⟨names, by rw [done], kinds, empty⟩
          refused := fun refused => absurd ok refused }
    · obtain ⟨e, refused⟩ := asked_createDirectory_of_unchecked reached small absent checked
      have failed : makeDirectory (client naming) text false c = (.error (.error e), c) := by
        rw [runs, bind_of_error refused]
      exact .of_refused failed fun both => checked both.2
  · have failed : makeDirectory (client naming) text false c =
        (.error (.alreadyExists p.text), c) := by
      rw [runs, bind_of_ok (asked_createDirectory_of_present reached small absent)]
      rfl
    exact .of_refused failed fun both => absent both.1

/-- A command that makes directories makes all that it is asked for, or fails and leaves
everything as it is; one that also makes what leads to its directory can be repeated. -/
theorem makeDirectory_exact {text : String}
    (reached : c.network.connect naming = .ok (.naming .service))
    (parsed : Path.parse text = .ok p)
    (small : (Utf8.encode (Request.createDirectory p).text).length ≤ Frame.maxLength) :
    MakesAll (makeDirectory (client naming) text true) p c ∧
      MakesOne (makeDirectory (client naming) text false) p c :=
  ⟨makesAll reached parsed small, makesOne reached parsed small⟩

/-- A directory below the file that the naming service knows. -/
def belowHomeFile : Path := homeFile.child ⟨"g", by decide⟩

theorem makeDirectory_exact_home :
    (alone homeDisk home.root homeNames).network.connect serviceAt = .ok (.naming .service) ∧
      Path.parse "/f/g" = .ok belowHomeFile ∧
      MakesAll (makeDirectory (client serviceAt) "/f/g" true) belowHomeFile
        (alone homeDisk home.root homeNames) ∧
      (makeDirectory (client serviceAt) "/f/g" true (alone homeDisk home.root homeNames)).1 ≠
        .ok () := by
  have reached : (alone homeDisk home.root homeNames).network.connect serviceAt =
    .ok (.naming .service) := rfl
  have parsed : Path.parse "/f/g" = .ok belowHomeFile := by decide
  have small : (Utf8.encode (Request.createDirectory belowHomeFile).text).length ≤
      Frame.maxLength := by
    decide +kernel
  obtain ⟨all, -⟩ := makeDirectory_exact reached parsed small
  refine ⟨reached, parsed, all, fun done => ?_⟩
  exact all.succeeds.mp done homeFile nodeAt (by decide) rfl

end Dfs.Client
