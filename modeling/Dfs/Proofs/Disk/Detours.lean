import Dfs.Proofs.Disk.Directories

/-!
Roots whose paths lead through what storage nodes change. The path of a root may go down into the
files of a node and back up (`x/..`), and so lead nowhere once a directory is gone. Whatever nodes
have made and removed below their places, it leads to its own place or nowhere
(`Houses.rooted_of_parts`); and where something can be done below it, it leads there
(`Houses.rooted_of_resolve`). Directories that are made on the way to such a root are below the
places of nodes again, where there were some before (`Houses.tended_makeDirectories`).
-/

namespace Dfs

/-- The path is that of a root, or leads to it or to something below it. -/
inductive HostPath.OnWay (root : HostPath) : HostPath → Prop where
  | above {h : HostPath} : h.steps <+: root.parts → OnWay root h
  | below {names : List HostName} : HostPath.Relative names → OnWay root (root.below names)

theorem HostPath.OnWay.parent {root h : HostPath} (way : OnWay root h) (ne : root.bytes ≠ []) :
    OnWay root h.parent := by
  cases way with
  | above lead => exact .above ((steps_parent_isPrefix h).trans ((parts_isPrefix h).trans lead))
  | below relative =>
      rcases parent_below ne relative with same | ⟨front, relative', same⟩
      · rw [same]
        refine .above ?_
        rw [steps_stripped ne]
      · rw [same]
        exact .below relative'

namespace Disk

variable {ps : List Place} {d₀ d : Disk} {here p q dir : Place} {names xs ys : List HostName}
  {name : HostName} {node : DiskNode} {last : Bool} {links : Nat} {root h : HostPath}

/-! ### A path that goes on -/

/-- A walk that gets further than its first names has found a directory with them, or come to a
link. -/
theorem walk_of_append {stop : Stop} (start : d.kindAt? here = some .dir) (more : ys ≠ [])
    (walked : d.walk last here (xs ++ ys) = .ok stop) :
    (∃ p entries, d.walk true here xs = .ok (.found p (.dir entries))) ∨
      ∃ dir target rest, d.walk true here xs = .ok (.jump dir target rest) ∧
        stop = .jump dir target (rest ++ ys) := by
  induction xs generalizing here with
  | nil =>
      obtain ⟨entries, there⟩ := kindAt?_eq_dir_iff.mp start
      refine .inl ⟨here, entries, ?_⟩
      rw [walk_nil, there]
  | cons name xs ih =>
      rw [List.cons_append] at walked
      cases d.turn here name with
      | on there onward stays =>
          rw [onward] at walked ⊢
          exact ih (stays start) walked
      | long refused =>
          rw [refused] at walked
          cases walked
      | vacant nothing =>
          rw [nothing, if_neg (by simp [more])] at walked
          cases walked
      | file content there ends =>
          rw [ends, if_neg (by simp [more])] at walked
          cases walked
      | link target there ends =>
          rw [ends, if_neg (by simp [more])] at walked
          cases walked
          refine .inr ⟨here, target, xs, ?_, rfl⟩
          rw [ends, if_neg (by simp)]

/-- A path that leads anywhere leads to a directory with its first names. -/
theorem follow_of_append {spot : Spot} (start : d.kindAt? here = some .dir) (more : ys ≠ [])
    (followed : d.follow last links here (xs ++ ys) = .ok spot) :
    ∃ p entries, d.follow true links here xs = .ok (.found p (.dir entries)) := by
  induction links generalizing here xs with
  | zero =>
      cases walked : d.walk last here (xs ++ ys) with
      | error fault =>
          rw [follow_of_fault walked] at followed
          cases followed
      | ok stop =>
          rcases walk_of_append start more walked with ⟨p, entries, found⟩ | ⟨_, _, _, jump, rfl⟩
          · exact ⟨p, entries, follow_of_found found⟩
          · rw [follow_zero_of_jump walked] at followed
            cases followed
  | succ links ih =>
      cases walked : d.walk last here (xs ++ ys) with
      | error fault =>
          rw [follow_of_fault walked] at followed
          cases followed
      | ok stop =>
          rcases walk_of_append start more walked with
            ⟨p, entries, found⟩ | ⟨dir, target, rest, jump, rfl⟩
          · exact ⟨p, entries, follow_of_found found⟩
          · rw [follow_of_jump walked, ← List.append_assoc] at followed
            rw [follow_of_jump jump]
            exact ih (kindAt?_start ((kindAt?_of_walk start).2 _ _ _ jump) target) followed

/-! ### Disks that differ below some places -/

section LooksUp

variable (looksUp : LooksUp name)

include looksUp

/-- At its last name a walk finds what is no link. -/
theorem walk_last (there : d.get? (here ++ [name]) = some node)
    (noLink : ∀ target, node ≠ .leaf (.link target)) :
    d.walk last here [name] = .ok (.found (here ++ [name]) node) := by
  cases node with
  | dir entries => rw [walk_dir looksUp there, walk_nil, there]
  | leaf item =>
      cases item with
      | file content => rw [walk_file looksUp there, if_pos rfl]
      | link target => exact absurd rfl (noLink target)

/-- Beyond a file there is nothing. -/
theorem walk_leaf {item : DiskItem} (there : d.get? (here ++ [name]) = some (.leaf item))
    (noLink : ∀ target, (.leaf item : DiskNode) ≠ .leaf (.link target)) (more : names ≠ []) :
    d.walk last here (name :: names) = .error .notDirectory := by
  cases item with
  | file content => rw [walk_file looksUp there, if_neg more]
  | link target => exact absurd rfl (noLink target)

end LooksUp

/-- The disks differ only below the places, where there are only directories and regular files. -/
structure Varies (ps : List Place) (d₀ d : Disk) : Prop where
  outside : SameOutside ps d₀ d
  before : ∀ q ∈ ps, d₀.Plain q
  after : ∀ q ∈ ps, d.Plain q

/-- A directory or file of the first disk is not where it was, below one of the places. -/
structure Missing (ps : List Place) (d₀ : Disk) (js : Place) : Prop where
  inside : ∃ q ∈ ps, Inside q js
  before : d₀.kindAt? js ≠ none

/-- What a walk comes to on both disks, if it does not end on the first one already. -/
inductive Varied (ps : List Place) (d₀ : Disk) : Except Fault Stop → Except Fault Stop → Prop where
  | found (p : Place) (node node' : DiskNode) :
      Varied ps d₀ (.ok (.found p node)) (.ok (.found p node'))
  | jump (dir : Place) (target : HostPath) (rest : List HostName) :
      Varied ps d₀ (.ok (.jump dir target rest)) (.ok (.jump dir target rest))
  | refused (fault : Fault) (stop : Except Fault Stop) : Varied ps d₀ (.error fault) stop
  | vacant (dir : Place) (name : HostName) (stop : Except Fault Stop) :
      Varied ps d₀ (.ok (.vacant dir name)) stop
  | lost (stop : Except Fault Stop) (fault : Fault) : Varied ps d₀ stop (.error fault)
  | missing (stop : Except Fault Stop) (dir : Place) (name : HostName) :
      Missing ps d₀ (dir ++ [name]) → Varied ps d₀ stop (.ok (.vacant dir name))

namespace Varies

variable (varies : Varies ps d₀ d)

include varies

/-- What is at a place is the same, or it is below one of the places, and no link. -/
theorem kindAt?_cases (js : Place) : d.kindAt? js = d₀.kindAt? js ∨
    (∃ q ∈ ps, Inside q js) ∧ (∀ target, d₀.kindAt? js ≠ some (.leaf (.link target))) ∧
      ∀ target, d.kindAt? js ≠ some (.leaf (.link target)) := by
  by_cases inside : ∃ q ∈ ps, Inside q js
  · refine .inr ⟨inside, ?_⟩
    obtain ⟨q, mem, ⟨xs, rfl⟩, -⟩ := inside
    exact ⟨(varies.before q mem).noLinks xs, (varies.after q mem).noLinks xs⟩
  · exact .inl (varies.outside js fun q mem below => inside ⟨q, mem, below⟩)

theorem link_iff {js : Place} {target : HostPath} :
    d.get? js = some (.leaf (.link target)) ↔ d₀.get? js = some (.leaf (.link target)) := by
  rw [← kindAt?_eq_leaf_iff, ← kindAt?_eq_leaf_iff]
  rcases varies.kindAt?_cases js with same | ⟨-, noLink, noLink'⟩
  · rw [same]
  · simp [noLink, noLink']

/-- What has gone is below one of the places. -/
theorem missing_of_absent {js : Place} (before : d₀.kindAt? js ≠ none)
    (absent : d.kindAt? js = none) : Missing ps d₀ js := by
  refine ⟨?_, before⟩
  rcases varies.kindAt?_cases js with same | ⟨inside, -⟩
  · exact absurd (same.symm.trans absent) before
  · exact inside

/-- A walk that looks up a name, if it is so for the names that follow. -/
theorem walk_name (looksUp : LooksUp name)
    (rest : ∀ here, Varied ps d₀ (d₀.walk last here names) (d.walk last here names)) :
    Varied ps d₀ (d₀.walk last here (name :: names)) (d.walk last here (name :: names)) := by
  cases there : d₀.get? (here ++ [name]) with
  | none =>
      rw [walk_absent looksUp there]
      split
      · exact .vacant here name _
      · exact .refused _ _
  | some node =>
  cases there' : d.get? (here ++ [name]) with
  | none =>
      rw [walk_absent looksUp there']
      split
      · exact .missing _ here name (varies.missing_of_absent
          (by simp [kindAt?_of_get? there]) (get?_eq_none_iff.mp there'))
      · exact .lost _ _
  | some node' =>
  by_cases link : ∃ target, node = .leaf (.link target)
  · obtain ⟨target, rfl⟩ := link
    rw [walk_link looksUp there, walk_link looksUp (varies.link_iff.mpr there)]
    split
    · exact .found _ _ _
    · exact .jump here target names
  have noLink : ∀ target, node ≠ .leaf (.link target) := fun target same => link ⟨target, same⟩
  have noLink' : ∀ target, node' ≠ .leaf (.link target) := by
    rintro target rfl
    exact noLink target (Option.some.inj (there.symm.trans (varies.link_iff.mp there')))
  by_cases noMore : names = []
  · rw [noMore, walk_last looksUp there noLink, walk_last looksUp there' noLink']
    exact .found _ _ _
  cases node with
  | leaf item =>
      rw [walk_leaf looksUp there noLink noMore]
      exact .refused _ _
  | dir entries =>
      cases node' with
      | leaf item =>
          rw [walk_leaf looksUp there' noLink' noMore]
          exact .lost _ _
      | dir entries' =>
          rw [walk_dir looksUp there, walk_dir looksUp there']
          exact rest (here ++ [name])

theorem walk (last : Bool) (here : Place) (names : List HostName) :
    Varied ps d₀ (d₀.walk last here names) (d.walk last here names) := by
  induction names generalizing here with
  | nil =>
      rw [walk_nil, walk_nil]
      cases d₀.get? here with
      | none => exact .refused _ _
      | some node =>
          cases d.get? here with
          | none => exact .lost _ _
          | some node' => exact .found here node node'
  | cons name names ih =>
      cases reading name with
      | dot =>
          rw [walk_dot, walk_dot]
          exact ih here
      | dotDot =>
          rw [walk_dotDot, walk_dotDot]
          exact ih here.dropLast
      | long refused =>
          rw [refused, refused]
          exact .refused _ _
      | lookUp looksUp => exact varies.walk_name looksUp ih

/-- Where a path leads that finds something at `p` on the first disk. -/
inductive Arrival (ps : List Place) (d₀ : Disk) (p : Place) : Except Fault Spot → Prop where
  | found (node : DiskNode) : Arrival ps d₀ p (.ok (.found p node))
  | lost (fault : Fault) : Arrival ps d₀ p (.error fault)
  | missing (dir : Place) (name : HostName) :
      Missing ps d₀ (dir ++ [name]) → Arrival ps d₀ p (.ok (.vacant dir name))

theorem follow (found : d₀.follow last links here names = .ok (.found p node)) :
    Arrival ps d₀ p (d.follow last links here names) := by
  have walked := varies.walk last here names
  induction links generalizing here names with
  | zero =>
      unfold Disk.follow at found ⊢
      generalize d₀.walk last here names = stop at walked found
      generalize d.walk last here names = stop' at walked ⊢
      cases walked with
      | found q node₀ node' =>
          cases found
          exact .found node'
      | jump | refused | vacant => cases found
      | lost stop fault => exact .lost fault
      | missing stop dir name missing => exact .missing dir name missing
  | succ links ih =>
      unfold Disk.follow at found ⊢
      generalize d₀.walk last here names = stop at walked found
      generalize d.walk last here names = stop' at walked ⊢
      cases walked with
      | found q node₀ node' =>
          cases found
          exact .found node'
      | jump dir target rest => exact ih found (varies.walk last _ _)
      | refused | vacant => cases found
      | lost stop fault => exact .lost fault
      | missing stop dir name missing => exact .missing dir name missing

end Varies

/-! ### Disks with several nodes -/

/-- The path leads to the directory at `p`, or would if there were other directories and regular
files below the places. -/
def CanLead (d : Disk) (ps : List Place) (root : HostPath) (p : Place) : Prop :=
  ∃ d₀, SameOutside ps d₀ d ∧ (∀ q ∈ ps, d₀.Plain q) ∧
    ∃ entries, d₀.resolve true root = .ok (.found p (.dir entries))

/-- Storage nodes have their files below the places, and the path can lead to one of these. -/
structure Houses (d : Disk) (ps : List Place) (root : HostPath) (p : Place) : Prop where
  member : p ∈ ps
  apart : ∀ q ∈ ps, q ≠ p → ¬ q <+: p ∧ ¬ p <+: q
  plain : ∀ q ∈ ps, d.Plain q
  canLead : d.CanLead ps root p

/-- The disk has changed at most below the places, and holds there what may be there. -/
structure Tended (ps : List Place) (d d' : Disk) : Prop where
  outside : SameOutside ps d d'
  plain : ∀ q ∈ ps, d'.Plain q
  ordered : (Tree.dir d.top).Ordered → (Tree.dir d'.top).Ordered

variable {d' d'' : Disk}

theorem Tended.refl (plain : ∀ q ∈ ps, d.Plain q) : Tended ps d d where
  outside := .refl ps d
  plain := plain
  ordered := id

theorem Tended.trans (first : Tended ps d d') (second : Tended ps d' d'') : Tended ps d d'' where
  outside := first.outside.trans second.outside
  plain := second.plain
  ordered := fun ordered => second.ordered (first.ordered ordered)

namespace Houses

variable (houses : d.Houses ps root p)

include houses

/-- No place is below another one. -/
theorem not_inside (mem : q ∈ ps) (other : q ≠ p) (xs : Place) : ¬ Inside p (q ++ xs) := by
  rintro ⟨lead, -⟩
  obtain ⟨above, below⟩ := houses.apart q mem other
  rcases List.prefix_or_prefix_of_prefix lead (List.prefix_append q xs) with lower | upper
  · exact below lower
  · exact above upper

/-- What a node does below its place concerns no other one. -/
theorem tended_of_worked (worked : Worked p d d') : Tended ps d d' where
  outside := worked.outside.mono (by simpa using houses.member)
  plain := by
    intro q mem
    by_cases same : q = p
    · rw [same]
      exact (houses.plain p houses.member).worked worked
    · have kinds : ∀ xs, d'.kindAt? (q ++ xs) = d.kindAt? (q ++ xs) := by
        intro xs
        apply worked.outside
        simpa using houses.not_inside mem same xs
      have before := houses.plain q mem
      exact { noLinks := fun xs target => by rw [kinds]; exact before.noLinks xs target
              valid := fun xs => by rw [kinds]; exact before.valid xs }
  ordered := worked.ordered

theorem of_tended (tended : Tended ps d d') : d'.Houses ps root p where
  member := houses.member
  apart := houses.apart
  plain := tended.plain
  canLead := by
    obtain ⟨d₀, outside, plain, opens⟩ := houses.canLead
    exact ⟨d₀, outside.trans tended.outside, plain, opens⟩

/-- How the disk differs from one on which the path leads to the place. -/
theorem varies : ∃ d₀, Varies ps d₀ d ∧ root.check = .ok () ∧ d₀.kindAt? p = some .dir ∧
    ∃ entries, d₀.follow true maxLinks [] root.parts = .ok (.found p (.dir entries)) := by
  obtain ⟨d₀, outside, plain, entries, found⟩ := houses.canLead
  obtain ⟨checked, there⟩ := follow_parts found
  exact ⟨d₀, ⟨outside, plain, houses.plain⟩, checked,
    kindAt?_eq_dir_iff.mpr ⟨entries, get?_of_follow there⟩, entries, there⟩

theorem bytes_ne_nil : root.bytes ≠ [] := by
  obtain ⟨d₀, -, checked, -⟩ := houses.varies
  exact (HostPath.check_eq_ok_iff.mp checked).2.1

/-- If the path leads anywhere, then to its place. -/
theorem rooted_of_parts (found : d.follow true maxLinks [] root.parts = .ok (.found q node)) :
    q = p ∧ d.Rooted root p := by
  obtain ⟨d₀, varies, checked, isDir, entries, there⟩ := houses.varies
  have arrival := varies.follow there
  rw [found] at arrival
  cases arrival
  have kept : d.kindAt? p = some .dir := by
    refine (varies.outside p fun q mem inside => ?_).trans isDir
    by_cases same : q = p
    · exact inside.2 same
    · exact (houses.apart q mem same).1 inside.1
  obtain ⟨entries', isDir'⟩ := kindAt?_eq_dir_iff.mp kept
  have at_ := get?_of_follow found
  rw [isDir'] at at_
  cases at_
  exact ⟨rfl, houses.plain p houses.member, entries', resolve_of_parts checked found⟩

theorem rooted_of_root (found : d.resolve true root = .ok (.found q node)) :
    q = p ∧ d.Rooted root p := by
  obtain ⟨-, followed⟩ := resolve_eq_ok_iff.mp found
  rcases root.steps_eq with same | dotted
  · rw [same] at followed
    exact houses.rooted_of_parts followed
  · rw [dotted] at followed
    exact houses.rooted_of_parts (follow_of_concat_dot followed)

/-- If a path below the root leads anywhere, or to where something can be made, the root leads to
its place. -/
theorem rooted_of_resolve {spot : Spot} (relative : HostPath.Relative names)
    (resolved : d.resolve last (root.below names) = .ok spot) : d.Rooted root p := by
  obtain ⟨-, followed⟩ := resolve_eq_ok_iff.mp resolved
  rw [HostPath.steps_below relative.pieces relative.nonempty] at followed
  obtain ⟨q, entries, found⟩ := follow_of_append rfl relative.nonempty followed
  exact (houses.rooted_of_parts found).2

end Houses

/-- A node has its own place, if no others are looked at. -/
theorem Rooted.houses (rooted : d.Rooted root p) : d.Houses [p] root p where
  member := List.mem_singleton_self p
  apart := fun _ mem other => absurd (List.mem_singleton.mp mem) other
  plain := by simpa using rooted.toPlain
  canLead := ⟨d, .refl [p] d, by simpa using rooted.toPlain, rooted.opens⟩

/-! ### Directories on the way -/

namespace Houses

variable (houses : d.Houses ps root p)

include houses

/-- Where a directory can be made on the way to the root, there was one, below a place. -/
theorem missing_of_vacant (way : h.steps <+: root.parts)
    (vacant : d.resolve false h = .ok (.vacant dir name)) :
    ∃ d₀, Varies ps d₀ d ∧ Missing ps d₀ (dir ++ [name]) := by
  obtain ⟨d₀, varies, -, -, entries, there⟩ := houses.varies
  refine ⟨d₀, varies, ?_⟩
  obtain ⟨ys, whole⟩ := way
  obtain ⟨q, entries', found⟩ :
      ∃ q entries, d₀.follow true maxLinks [] h.steps = .ok (.found q (.dir entries)) := by
    by_cases noMore : ys = []
    · rw [← whole, noMore, List.append_nil] at there
      exact ⟨p, entries, there⟩
    · rw [← whole] at there
      exact follow_of_append rfl noMore there
  obtain ⟨q', node', found'⟩ := follow_false_of_found found
  have arrival := varies.follow found'
  rw [(resolve_eq_ok_iff.mp vacant).2] at arrival
  cases arrival with
  | missing dir name missing => exact missing

/-- A directory that is made on the way to the root is one that may be there. -/
theorem tended_of_way (way : h.steps <+: root.parts) (done : d.makeDirectory h = .ok d') :
    Tended ps d d' := by
  obtain ⟨dir, name, vacant, rfl⟩ := makeDirectory_eq_ok_iff.mp done
  obtain ⟨isDir, absent⟩ := kindAt?_of_resolve_vacant vacant
  obtain ⟨d₀, varies, ⟨q₀, mem₀, inside₀⟩, before⟩ := houses.missing_of_vacant way vacant
  have kinds := kindAt?_set_vacant (.dir []) isDir absent fun _ _ => rfl
  refine ⟨fun js outside => ?_, fun q mem => ⟨fun xs target => ?_, fun xs there => ?_⟩,
    fun ordered => ordered_set ordered Tree.ordered_empty⟩
  · rw [kinds, if_neg]
    rintro rfl
    exact outside q₀ mem₀ inside₀
  · rw [kinds]
    split
    · simp
    · exact (houses.plain q mem).noLinks xs target
  · rw [kinds] at there
    split at there
    · next same =>
        rw [← same] at before
        exact (varies.before q mem).valid xs before
    · exact (houses.plain q mem).valid xs there

/-- What is made on the way to something below the root is what may be there. -/
theorem tended_makeDirectoriesWith (above : Nat) (way : root.OnWay h) :
    Tended ps d (makeDirectoriesWith above d h).2 := by
  induction above using Nat.strong_induction_on generalizing d h with
  | _ above ih =>
      have higher : ∀ k < above, Tended ps d (makeDirectoriesWith k d h.parent).2 :=
        fun k fewer => ih k fewer houses (way.parent houses.bytes_ne_nil)
      have itself : ∀ {e e'}, e.Houses ps root p → e.makeDirectory h = .ok e' → Tended ps e e' := by
        intro e e' houses done
        cases way with
        | above lead => exact houses.tended_of_way lead done
        | below relative =>
            obtain ⟨dir, name, vacant, -⟩ := makeDirectory_eq_ok_iff.mp done
            have rooted := houses.rooted_of_resolve relative vacant
            exact houses.tended_of_worked (rooted.worked_makeDirectory relative done)
      have made := making above d h
      generalize (makeDirectoriesWith above d h).2 = d' at made ⊢
      cases made with
      | nothing => exact .refl houses.plain
      | itself done => exact itself houses done
      | above => exact higher _ (Nat.lt_succ_self _)
      | both done =>
          have tended := higher _ (Nat.lt_succ_self _)
          exact tended.trans (itself (houses.of_tended tended) done)

theorem tended_makeDirectories (relative : HostPath.Relative names) :
    Tended ps d (d.makeDirectories (root.below names).parent).2 :=
  houses.tended_makeDirectoriesWith _ ((HostPath.OnWay.below relative).parent houses.bytes_ne_nil)

end Houses

end Disk

end Dfs
