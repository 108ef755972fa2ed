import Dfs.Proofs.Disk.Resolve

/-!
Paths that miss something, and disks of which one has everything that is on the other. A
path that misses something has no continuation that finds anything (`FollowMisses.append`).
Where a path leads on a disk, it leads on every larger one (`Within.resolve_found`); and on a
smaller one it leads to the same place, or misses something (`Within.resolve_or_misses`). Where
it leads to a file, or to where one could be made, it leads to whatever file is there on a disk
with the same directories and links (`KeepsWays.resolve`).
-/

namespace Dfs.Disk

variable {d d' : Disk} {here p dir : Place} {names xs ys rest : List HostName} {name : HostName}
  {node node' : DiskNode} {last : Bool} {links : Nat} {h : HostPath}

/-! ### Where walks from a directory stop -/

/-- A walk from a directory stops at a directory: nothing is under the name that it misses
there, and a link that it comes to is in one. -/
theorem kindAt?_of_walk (start : d.kindAt? here = some .dir) :
    (∀ dir name, d.walk last here names = .ok (.vacant dir name) →
      d.kindAt? dir = some .dir ∧ d.kindAt? (dir ++ [name]) = none) ∧
    ∀ dir target rest, d.walk last here names = .ok (.jump dir target rest) →
      d.kindAt? dir = some .dir := by
  induction names generalizing here with
  | nil =>
      rw [walk_nil]
      constructor
      · intro dir name vacant
        split at vacant <;> cases vacant
      · intro dir target rest jump
        split at jump <;> cases jump
  | cons name names ih =>
      cases d.turn here name with
      | on there onward stays =>
          rw [onward]
          exact ih (stays start)
      | long refused => simp [refused]
      | vacant nothing absent =>
          rw [nothing]
          constructor
          · intro dir name vacant
            split at vacant <;> cases vacant
            exact ⟨start, absent⟩
          · intro dir target rest jump
            split at jump <;> cases jump
      | file content there ends =>
          rw [ends]
          constructor
          · intro dir name vacant
            split at vacant <;> cases vacant
          · intro dir target rest jump
            split at jump <;> cases jump
      | link target there ends =>
          rw [ends]
          constructor
          · intro dir name vacant
            split at vacant <;> cases vacant
          · intro dir target rest jump
            split at jump <;> cases jump
            exact start

/-- The top of a disk is a directory, and so is that of a link. -/
theorem kindAt?_start (isDir : d.kindAt? dir = some .dir) (target : HostPath) :
    d.kindAt? (if target.bytes.head? = some HostPath.slash then [] else dir) = some .dir := by
  split
  · rfl
  · exact isDir

theorem kindAt?_of_follow_vacant (start : d.kindAt? here = some .dir)
    (vacant : d.follow last links here names = .ok (.vacant dir name)) :
    d.kindAt? dir = some .dir ∧ d.kindAt? (dir ++ [name]) = none := by
  induction links generalizing here names with
  | zero =>
      rcases follow_vacant_cases vacant with walked | ⟨_, _, _, _, more, -⟩
      · exact (kindAt?_of_walk start).1 _ _ walked
      · cases more
  | succ links ih =>
      rcases follow_vacant_cases vacant with walked | ⟨_, _, _, _, more, walked, onward⟩
      · exact (kindAt?_of_walk start).1 _ _ walked
      · cases more
        exact ih (kindAt?_start ((kindAt?_of_walk start).2 _ _ _ walked) _) onward

/-- Where something can be made, on whatever disk, a directory is there for it. -/
theorem kindAt?_of_resolve_vacant (vacant : d.resolve last h = .ok (.vacant dir name)) :
    d.kindAt? dir = some .dir ∧ d.kindAt? (dir ++ [name]) = none :=
  kindAt?_of_follow_vacant rfl (resolve_eq_ok_iff.mp vacant).2

/-! ### Missing something -/

/-- The walk comes to a name under which nothing is. -/
def WalkMisses (d : Disk) (last : Bool) (here : Place) (names : List HostName) : Prop :=
  d.walk last here names = .error .noSuchEntry ∨
    ∃ dir name, d.walk last here names = .ok (.vacant dir name)

def FollowMisses (d : Disk) (last : Bool) (links : Nat) (here : Place) (names : List HostName) :
    Prop :=
  d.follow last links here names = .error .noSuchEntry ∨
    ∃ dir name, d.follow last links here names = .ok (.vacant dir name)

/-- The path leads to where nothing is, or to where it cannot go on. -/
def Misses (d : Disk) (last : Bool) (h : HostPath) : Prop :=
  d.resolve last h = .error .noSuchEntry ∨ ∃ dir name, d.resolve last h = .ok (.vacant dir name)

theorem misses_iff_of_check (taken : h.check = .ok ()) :
    d.Misses last h ↔ d.FollowMisses last maxLinks [] h.steps := by
  unfold Misses FollowMisses
  rw [resolve_of_check taken]

theorem stat_of_misses (misses : d.Misses true h) : d.stat h = .error .noSuchEntry := by
  unfold stat
  rcases misses with missed | ⟨dir, name, vacant⟩
  · rw [missed]
  · rw [vacant]

/-- A path that leads somewhere misses nothing. -/
theorem not_misses_of_found (found : d.resolve last h = .ok (.found p node)) :
    ¬ d.Misses last h := by
  rintro (missed | ⟨dir, name, vacant⟩)
  · rw [found] at missed
    cases missed
  · rw [found] at vacant
    cases vacant

/-- A path misses something if its walk does, or what comes after a link. -/
theorem followMisses_cases (misses : d.FollowMisses last links here names) :
    d.WalkMisses last here names ∨
      ∃ links' dir target rest, links = links' + 1 ∧
        d.walk last here names = .ok (.jump dir target rest) ∧
        d.FollowMisses last links' (if target.bytes.head? = some HostPath.slash then [] else dir)
          (target.steps ++ rest) := by
  unfold FollowMisses at misses
  cases walked : d.walk last here names with
  | error fault =>
      rw [follow_of_fault walked] at misses
      refine .inl (.inl ?_)
      rw [walked]
      simpa using misses
  | ok stop =>
      cases stop with
      | found p node => simp [follow_of_found walked] at misses
      | vacant dir name => exact .inl (.inr ⟨dir, name, walked⟩)
      | jump dir target rest =>
          cases links with
          | zero => simp [follow_zero_of_jump walked, Fault.tooManyLinks, Fault.noSuchEntry] at misses
          | succ links =>
              rw [follow_of_jump walked] at misses
              exact .inr ⟨links, dir, target, rest, rfl, rfl, misses⟩

/-- What misses something goes nowhere from there. -/
theorem WalkMisses.append (misses : d.WalkMisses true here xs) (start : d.kindAt? here = some .dir)
    (more : ys ≠ []) (last : Bool) : d.walk last here (xs ++ ys) = .error .noSuchEntry := by
  unfold WalkMisses at misses
  induction xs generalizing here with
  | nil =>
      obtain ⟨entries, there⟩ := kindAt?_eq_dir_iff.mp start
      simp [walk_nil, there] at misses
  | cons name xs ih =>
      rw [List.cons_append]
      cases d.turn here name with
      | on there onward stays =>
          rw [onward] at misses ⊢
          exact ih misses (stays start)
      | long refused =>
          rw [refused] at misses
          rcases misses with missed | ⟨dir, name, vacant⟩
          · cases missed
          · cases vacant
      | vacant nothing => rw [nothing, if_neg (by simp [more])]
      | file content there ends =>
          rw [ends] at misses
          rcases misses with missed | ⟨dir, name, vacant⟩
          · split at missed <;> cases missed
          · split at vacant <;> cases vacant
      | link target there ends =>
          rw [ends] at misses
          rcases misses with missed | ⟨dir, name, vacant⟩
          · split at missed <;> cases missed
          · split at vacant <;> cases vacant

theorem FollowMisses.append (misses : d.FollowMisses true links here xs)
    (start : d.kindAt? here = some .dir) (more : ys ≠ []) (last : Bool) :
    d.follow last links here (xs ++ ys) = .error .noSuchEntry := by
  induction links generalizing here xs with
  | zero =>
      rcases followMisses_cases misses with walked | ⟨_, _, _, _, another, -⟩
      · exact follow_of_fault (walked.append start more last)
      · cases another
  | succ links ih =>
      rcases followMisses_cases misses with walked | ⟨_, dir, target, rest, another, walked, onward⟩
      · exact follow_of_fault (walked.append start more last)
      · cases another
        rw [follow_of_jump (walk_append_of_jump walked more last), ← List.append_assoc]
        exact ih onward (kindAt?_start ((kindAt?_of_walk start).2 _ _ _ walked) target)

/-- A path whose names lead to a directory leads there, also if a slash at its end asks for
one. -/
theorem resolve_of_parts {entries : Tree.Folder HostName DiskItem} (checked : h.check = .ok ())
    (found : d.follow true maxLinks [] h.parts = .ok (.found p (.dir entries))) :
    d.resolve true h = .ok (.found p (.dir entries)) := by
  refine resolve_eq_ok_iff.mpr ⟨checked, ?_⟩
  rcases h.steps_eq with same | dotted
  · rwa [same]
  · obtain ⟨links, onward⟩ := follow_append found (List.cons_ne_nil HostPath.dot []) true
    have there : d.walk true p [HostPath.dot] = .ok (.found p (.dir entries)) := by
      rw [walk_dot, walk_nil, get?_of_follow found]
    rw [dotted, onward, follow_of_found there]

/-! ### A disk with everything that is on another one -/

/-- Whatever is on `d` is on `d'` too. -/
def Within (d d' : Disk) : Prop := ∀ js kind, d.kindAt? js = some kind → d'.kindAt? js = some kind

/-- What a walk comes to on a disk, and on one with everything that is on it. -/
inductive Onward : Except Fault Stop → Except Fault Stop → Prop where
  | found (p : Place) (node node' : DiskNode) : Onward (.ok (.found p node)) (.ok (.found p node'))
  | jump (dir : Place) (target : HostPath) (rest : List HostName) :
      Onward (.ok (.jump dir target rest)) (.ok (.jump dir target rest))
  | refused (fault : Fault) : Onward (.error fault) (.error fault)
  | vacant (dir : Place) (name : HostName) (stop : Except Fault Stop) :
      Onward (.ok (.vacant dir name)) stop
  | missed (stop : Except Fault Stop) : Onward (.error .noSuchEntry) stop

namespace Within

variable (within : d.Within d')

include within

theorem exists_get? (there : d.get? p = some node) : ∃ node', d'.get? p = some node' ∧
    node'.kind = node.kind :=
  Option.map_eq_some_iff.mp (within p _ (kindAt?_of_get? there))

theorem walk (last : Bool) (here : Place) (names : List HostName) :
    Onward (d.walk last here names) (d'.walk last here names) := by
  induction names generalizing here with
  | nil =>
      rw [walk_nil, walk_nil]
      cases there : d.get? here with
      | none => exact .missed _
      | some node =>
          obtain ⟨node', there', -⟩ := within.exists_get? there
          rw [there']
          exact .found here node node'
  | cons name names ih =>
      cases reading name with
      | dot =>
          rw [walk_dot, walk_dot]
          exact ih here
      | dotDot =>
          rw [walk_dotDot, walk_dotDot]
          exact ih here.dropLast
      | long refused =>
          rw [refused, refused]
          exact .refused _
      | lookUp looksUp =>
      -- What is under the name on the smaller disk is of the same kind on the larger one.
      cases there : d.get? (here ++ [name]) with
      | none =>
          rw [walk_absent looksUp there]
          split
          · exact .vacant here name _
          · exact .missed _
      | some node =>
          obtain ⟨node', there', same⟩ := within.exists_get? there
          cases node with
          | dir entries =>
              obtain ⟨entries', rfl⟩ := Tree.kind_eq_dir_iff.mp same
              rw [walk_dir looksUp there, walk_dir looksUp there']
              exact ih (here ++ [name])
          | leaf item =>
              obtain rfl := Tree.kind_eq_leaf_iff.mp same
              cases item with
              | file content =>
                  rw [walk_file looksUp there, walk_file looksUp there']
                  split
                  · exact .found _ _ _
                  · exact .refused _
              | link target =>
                  rw [walk_link looksUp there, walk_link looksUp there']
                  split
                  · exact .found _ _ _
                  · exact .jump here target names

/-- A path leads to the same place on both disks, or misses something on the smaller one, or
is refused on both. -/
theorem follow (last : Bool) (links : Nat) (here : Place) (names : List HostName) :
    (∃ p node node', d.follow last links here names = .ok (.found p node) ∧
      d'.follow last links here names = .ok (.found p node')) ∨
    d.FollowMisses last links here names ∨
    ∃ fault, d.follow last links here names = .error fault ∧
      d'.follow last links here names = .error fault := by
  have walked := within.walk last here names
  induction links generalizing here names with
  | zero =>
      unfold FollowMisses Disk.follow
      generalize d.walk last here names = stop at walked ⊢
      generalize d'.walk last here names = stop' at walked ⊢
      cases walked with
      | found p node node' => exact .inl ⟨p, node, node', rfl, rfl⟩
      | jump dir target rest => exact .inr (.inr ⟨.tooManyLinks, rfl, rfl⟩)
      | refused fault => exact .inr (.inr ⟨fault, rfl, rfl⟩)
      | vacant dir name => exact .inr (.inl (.inr ⟨dir, name, rfl⟩))
      | missed => exact .inr (.inl (.inl rfl))
  | succ links ih =>
      unfold FollowMisses Disk.follow
      generalize d.walk last here names = stop at walked ⊢
      generalize d'.walk last here names = stop' at walked ⊢
      cases walked with
      | found p node node' => exact .inl ⟨p, node, node', rfl, rfl⟩
      | jump dir target rest => exact ih _ _ (within.walk last _ _)
      | refused fault => exact .inr (.inr ⟨fault, rfl, rfl⟩)
      | vacant dir name => exact .inr (.inl (.inr ⟨dir, name, rfl⟩))
      | missed => exact .inr (.inl (.inl rfl))

/-- What is found is found on a larger disk too. -/
theorem resolve_found (found : d.resolve last h = .ok (.found p node)) :
    ∃ node', d'.resolve last h = .ok (.found p node') ∧ node'.kind = node.kind := by
  have there := get?_of_resolve found
  obtain ⟨checked, followed⟩ := resolve_eq_ok_iff.mp found
  rcases within.follow last maxLinks [] h.steps with
    ⟨q, n, node', small, large⟩ | missed | ⟨fault, small, -⟩
  · rw [small] at followed
    cases followed
    obtain ⟨seen, there', same⟩ := within.exists_get? there
    have at_ := get?_of_follow large
    rw [there'] at at_
    cases at_
    exact ⟨node', resolve_eq_ok_iff.mpr ⟨checked, large⟩, same⟩
  · exact absurd ((misses_iff_of_check checked).mpr missed) (not_misses_of_found found)
  · rw [small] at followed
    cases followed

/-- What is found is found on a smaller disk too, unless something is missing there. -/
theorem resolve_or_misses (found : d'.resolve last h = .ok (.found p node')) :
    (∃ node, d.resolve last h = .ok (.found p node)) ∨ d.Misses last h := by
  obtain ⟨checked, followed⟩ := resolve_eq_ok_iff.mp found
  rcases within.follow last maxLinks [] h.steps with
    ⟨q, node, n, small, large⟩ | missed | ⟨fault, -, large⟩
  · rw [large] at followed
    cases followed
    exact .inl ⟨node, resolve_eq_ok_iff.mpr ⟨checked, small⟩⟩
  · exact .inr ((misses_iff_of_check checked).mpr missed)
  · rw [large] at followed
    cases followed

end Within

/-! ### A disk with the directories and links of another one -/

/-- Every directory and every link of `d` is on `d'` too. -/
def KeepsWays (d d' : Disk) : Prop :=
  ∀ js kind, d.kindAt? js = some kind → (∀ content, kind ≠ .leaf (.file content)) →
    d'.kindAt? js = some kind

/-- A walk has come to a file, or to where one can be made. -/
inductive Stop.Aims (p : Place) : Stop → Prop where
  | file (content : Content) : Aims p (.found p (.leaf (.file content)))
  | vacant (dir : Place) (name : HostName) : dir ++ [name] = p → Aims p (.vacant dir name)

/-- A path has come to a file, or to where one can be made. -/
inductive Spot.Aims (p : Place) : Spot → Prop where
  | file (content : Content) : Aims p (.found p (.leaf (.file content)))
  | vacant (dir : Place) (name : HostName) : dir ++ [name] = p → Aims p (.vacant dir name)

/-- The walk of a path that aims at a place does so, or comes to a link after which it does. -/
theorem follow_aims_cases {spot : Spot} (followed : d.follow last links here names = .ok spot)
    (aims : spot.Aims p) : (∃ stop : Stop, d.walk last here names = .ok stop ∧ stop.Aims p) ∨
      ∃ links' dir target rest, links = links' + 1 ∧
        d.walk last here names = .ok (.jump dir target rest) ∧
        d.follow last links' (if target.bytes.head? = some HostPath.slash then [] else dir)
          (target.steps ++ rest) = .ok spot := by
  cases aims with
  | file content =>
      rcases follow_found_cases followed with walked | jump
      · exact .inl ⟨_, walked, .file content⟩
      · exact .inr jump
  | vacant dir name whole =>
      rcases follow_vacant_cases followed with walked | jump
      · exact .inl ⟨_, walked, .vacant dir name whole⟩
      · exact .inr jump

namespace KeepsWays

variable {last' : Bool} {content : Content} (keeps : d.KeepsWays d')
  (still : last = true → last' = true)

include keeps still

/-- Where a walk has come to a link, it does so again, and where it aimed at a place, it finds the
file that is there now. -/
theorem walk_spec : (∀ dir target rest, d.walk last here names = .ok (.jump dir target rest) →
      d'.walk last' here names = .ok (.jump dir target rest)) ∧
    ∀ stop p content, d.walk last here names = .ok stop → stop.Aims p →
      d'.get? p = some (.leaf (.file content)) →
      d'.walk last' here names = .ok (.found p (.leaf (.file content))) := by
  induction names generalizing here with
  | nil =>
      rw [walk_nil, walk_nil]
      constructor
      · intro dir target rest jump
        split at jump <;> cases jump
      · intro stop p content found aims now
        split at found <;> cases found
        cases aims
        rw [now]
  | cons name names ih =>
      cases reading name with
      | dot =>
          rw [walk_dot, walk_dot]
          exact ih
      | dotDot =>
          rw [walk_dotDot, walk_dotDot]
          exact ih
      | long refused => simp [refused]
      | lookUp looksUp =>
      cases there : d.get? (here ++ [name]) with
      | none =>
          rw [walk_absent looksUp there]
          refine ⟨fun dir target rest jump => ?_, fun stop p content found aims now => ?_⟩
          · split at jump <;> cases jump
          · split at found <;> cases found
            next noMore =>
            cases aims with
            | vacant dir name whole =>
                rw [← whole] at now ⊢
                rw [walk_file looksUp now, if_pos noMore]
      | some node =>
          have same := keeps _ _ (kindAt?_of_get? there)
          cases node with
          | dir entries =>
              obtain ⟨entries', there'⟩ := kindAt?_eq_dir_iff.mp (same (by simp))
              rw [walk_dir looksUp there, walk_dir looksUp there']
              exact ih
          | leaf item =>
              cases item with
              | file before =>
                  rw [walk_file looksUp there]
                  refine ⟨fun dir target rest jump => ?_, fun stop p content found aims now => ?_⟩
                  · split at jump <;> cases jump
                  · split at found <;> cases found
                    next noMore =>
                    cases aims
                    rw [walk_file looksUp now, if_pos noMore]
              | link target =>
                  have there' := kindAt?_eq_leaf_iff.mp (same (by simp))
                  rw [walk_link looksUp there, walk_link looksUp there']
                  refine ⟨fun dir target' rest jump => ?_, fun stop p content found aims _ => ?_⟩
                  · split at jump
                    · cases jump
                    · next onward =>
                        rw [if_neg]
                        · exact jump
                        · rintro ⟨noMore, unfollowed⟩
                          cases last with
                          | true => simp [still rfl] at unfollowed
                          | false => exact onward ⟨noMore, rfl⟩
                  · split at found <;> cases found <;> cases aims

theorem follow {spot : Spot} (followed : d.follow last links here names = .ok spot)
    (aims : spot.Aims p) (now : d'.get? p = some (.leaf (.file content))) :
    d'.follow last' links here names = .ok (.found p (.leaf (.file content))) := by
  induction links generalizing here names with
  | zero =>
      rcases follow_aims_cases followed aims with ⟨stop, walked, there⟩ | ⟨_, _, _, _, more, -⟩
      · exact follow_of_found ((keeps.walk_spec still).2 stop _ _ walked there now)
      · cases more
  | succ links ih =>
      rcases follow_aims_cases followed aims with
        ⟨stop, walked, there⟩ | ⟨_, dir, target, rest, more, walked, onward⟩
      · exact follow_of_found ((keeps.walk_spec still).2 stop _ _ walked there now)
      · cases more
        rw [follow_of_jump ((keeps.walk_spec still).1 _ _ _ walked)]
        exact ih onward

/-- Where a path led to a file, or to where one could be made, it leads to the file that is there
now. -/
theorem resolve {spot : Spot} (resolved : d.resolve last h = .ok spot) (aims : spot.Aims p)
    (now : d'.get? p = some (.leaf (.file content))) :
    d'.resolve last' h = .ok (.found p (.leaf (.file content))) := by
  obtain ⟨checked, followed⟩ := resolve_eq_ok_iff.mp resolved
  exact resolve_eq_ok_iff.mpr ⟨checked, keeps.follow still followed aims now⟩

end KeepsWays

namespace KeepsWays

variable {entries : Tree.Folder HostName DiskItem} (keeps : d.KeepsWays d')

include keeps

/-- A walk to a directory comes to it again. -/
theorem walk_dir (found : d.walk true here names = .ok (.found p (.dir entries))) :
    ∃ entries', d'.walk true here names = .ok (.found p (.dir entries')) := by
  induction names generalizing here with
  | nil =>
      rw [walk_nil] at found
      split at found <;> cases found
      next there =>
      obtain ⟨entries', there'⟩ :=
        kindAt?_eq_dir_iff.mp (keeps _ _ (kindAt?_of_get? there) (by simp))
      exact ⟨entries', by rw [walk_nil, there']⟩
  | cons name names ih =>
      cases reading name with
      | dot =>
          rw [walk_dot] at found ⊢
          exact ih found
      | dotDot =>
          rw [walk_dotDot] at found ⊢
          exact ih found
      | long refused =>
          rw [refused] at found
          cases found
      | lookUp looksUp =>
      cases there : d.get? (here ++ [name]) with
      | none =>
          rw [walk_absent looksUp there] at found
          split at found <;> cases found
      | some node =>
          have same := keeps _ _ (kindAt?_of_get? there)
          cases node with
          | dir inner =>
              obtain ⟨inner', there'⟩ := kindAt?_eq_dir_iff.mp (same (by simp))
              rw [Disk.walk_dir looksUp there] at found
              rw [Disk.walk_dir looksUp there']
              exact ih found
          | leaf item =>
              cases item with
              | file content =>
                  rw [walk_file looksUp there] at found
                  split at found <;> cases found
              | link target =>
                  rw [walk_link looksUp there, if_neg (by simp)] at found
                  cases found

theorem follow_dir (found : d.follow true links here names = .ok (.found p (.dir entries))) :
    ∃ entries', d'.follow true links here names = .ok (.found p (.dir entries')) := by
  induction links generalizing here names with
  | zero =>
      rcases follow_found_cases found with walked | ⟨_, _, _, _, more, -⟩
      · obtain ⟨entries', again⟩ := keeps.walk_dir walked
        exact ⟨entries', follow_of_found again⟩
      · cases more
  | succ links ih =>
      rcases follow_found_cases found with walked | ⟨_, dir, target, rest, more, walked, onward⟩
      · obtain ⟨entries', again⟩ := keeps.walk_dir walked
        exact ⟨entries', follow_of_found again⟩
      · cases more
        rw [follow_of_jump ((keeps.walk_spec fun still => still).1 _ _ _ walked)]
        exact ih onward

/-- A path to a directory leads there again. -/
theorem resolve_dir (found : d.resolve true h = .ok (.found p (.dir entries))) :
    ∃ entries', d'.resolve true h = .ok (.found p (.dir entries')) := by
  obtain ⟨checked, followed⟩ := resolve_eq_ok_iff.mp found
  obtain ⟨entries', again⟩ := keeps.follow_dir followed
  exact ⟨entries', resolve_eq_ok_iff.mpr ⟨checked, again⟩⟩

end KeepsWays

end Dfs.Disk
