import Dfs.Proofs.Path.Host
import Dfs.Proofs.Tree

/-!
Where host paths lead. A path whose beginning leads to a directory goes on from there
(`follow_append`), and from a directory without links below it a path leads to the
place that its names say (`follow_eq_found_iff`, `follow_eq_vacant_iff`).
-/

namespace Dfs.Disk

/-- What is at a place of a disk. -/
def kindAt? (d : Disk) (place : Place) : Option (Kind DiskItem) := (Tree.dir d.top).kindAt? place

variable {d : Disk} {here p dir : Place} {names xs ys rest : List HostName} {node : DiskNode}
  {last : Bool}

theorem kindAt?_of_get? (found : d.get? p = some node) : d.kindAt? p = some node.kind := by
  change ((Tree.dir d.top).get? p).map Tree.kind = _
  rw [show (Tree.dir d.top).get? p = some node from found]
  rfl

theorem get?_eq_none_iff : d.get? p = none ↔ d.kindAt? p = none :=
  Tree.kindAt?_eq_none_iff.symm

theorem kindAt?_eq_dir_iff : d.kindAt? p = some .dir ↔ ∃ entries, d.get? p = some (.dir entries) :=
  Tree.kindAt?_eq_dir_iff

theorem kindAt?_eq_leaf_iff {item : DiskItem} :
    d.kindAt? p = some (.leaf item) ↔ d.get? p = some (.leaf item) :=
  Tree.kindAt?_eq_leaf_iff

/-- What is above a directory is one too. -/
theorem kindAt?_dropLast (isDir : d.kindAt? p = some .dir) : d.kindAt? p.dropLast = some .dir := by
  rcases List.eq_nil_or_concat' p with rfl | ⟨front, name, rfl⟩
  · exact isDir
  · rw [List.dropLast_concat]
    exact Tree.kindAt?_of_isPrefix (List.prefix_append front [name]) (by simp)
      (by rw [show (Tree.dir d.top).kindAt? (front ++ [name]) = some .dir from isDir]; simp)

/-! ### One step of a walk -/

theorem walk_nil (d : Disk) (last : Bool) (here : Place) : d.walk last here [] =
    match d.get? here with
    | some node => .ok (.found here node)
    | none => .error .noSuchEntry := by
  unfold walk
  rfl

theorem walk_dot (d : Disk) (last : Bool) (here : Place) (rest : List HostName) :
    d.walk last here (HostPath.dot :: rest) = d.walk last here rest := by
  rw [walk, if_pos rfl]

theorem walk_dotDot (d : Disk) (last : Bool) (here : Place) (rest : List HostName) :
    d.walk last here (HostPath.dotDot :: rest) = d.walk last here.dropLast rest := by
  rw [walk, if_neg (by decide), if_pos rfl]

/-- A name that a host looks up in the directory where it is. -/
structure LooksUp (name : HostName) : Prop where
  notDot : name ≠ HostPath.dot
  notDotDot : name ≠ HostPath.dotDot
  short : name.length ≤ HostPath.maxName

/-- What a host makes of a name, before it looks at a disk. -/
inductive Reading : HostName → Prop where
  | dot : Reading HostPath.dot
  | dotDot : Reading HostPath.dotDot
  | long {name : HostName} : (∀ (d : Disk) last here rest,
      d.walk last here (name :: rest) = .error .nameTooLong) → Reading name
  | lookUp {name : HostName} : LooksUp name → Reading name

theorem reading (name : HostName) : Reading name := by
  by_cases dot : name = HostPath.dot
  · exact dot ▸ .dot
  by_cases dotDot : name = HostPath.dotDot
  · exact dotDot ▸ .dotDot
  rcases Nat.lt_or_ge HostPath.maxName name.length with long | short
  · refine .long fun d last here rest => ?_
    rw [walk, if_neg dot, if_neg dotDot, if_pos long]
  · exact .lookUp ⟨dot, dotDot, short⟩

section LooksUp

variable {name : HostName} (looksUp : LooksUp name)

include looksUp

theorem walk_absent (absent : d.get? (here ++ [name]) = none) (last : Bool)
    (rest : List HostName) : d.walk last here (name :: rest) =
      if rest = [] then .ok (.vacant here name) else .error .noSuchEntry := by
  simp only [walk, if_neg looksUp.notDot, if_neg looksUp.notDotDot,
    if_neg (Nat.not_lt.mpr looksUp.short), absent]

theorem walk_dir {entries : Tree.Folder HostName DiskItem}
    (there : d.get? (here ++ [name]) = some (.dir entries)) (last : Bool) (rest : List HostName) :
    d.walk last here (name :: rest) = d.walk last (here ++ [name]) rest := by
  simp only [walk, if_neg looksUp.notDot, if_neg looksUp.notDotDot,
    if_neg (Nat.not_lt.mpr looksUp.short), there]

theorem walk_file {content : Content}
    (there : d.get? (here ++ [name]) = some (.leaf (.file content))) (last : Bool)
    (rest : List HostName) : d.walk last here (name :: rest) =
      if rest = [] then .ok (.found (here ++ [name]) (.leaf (.file content)))
      else .error .notDirectory := by
  simp only [walk, if_neg looksUp.notDot, if_neg looksUp.notDotDot,
    if_neg (Nat.not_lt.mpr looksUp.short), there]

theorem walk_link {target : HostPath}
    (there : d.get? (here ++ [name]) = some (.leaf (.link target))) (last : Bool)
    (rest : List HostName) : d.walk last here (name :: rest) =
      if rest = [] ∧ last = false then .ok (.found (here ++ [name]) (.leaf (.link target)))
      else .ok (.jump here target rest) := by
  simp only [walk, if_neg looksUp.notDot, if_neg looksUp.notDotDot,
    if_neg (Nat.not_lt.mpr looksUp.short), there]

end LooksUp

/-- What a name does on a walk from a directory, whatever follows it. -/
inductive Turn (d : Disk) (here : Place) (name : HostName) : Prop where
  | on (there : Place) :
      (∀ last rest, d.walk last here (name :: rest) = d.walk last there rest) →
      (d.kindAt? here = some .dir → d.kindAt? there = some .dir) → Turn d here name
  | long : (∀ last rest, d.walk last here (name :: rest) = .error .nameTooLong) → Turn d here name
  | vacant : (∀ last rest, d.walk last here (name :: rest) =
      if rest = [] then .ok (.vacant here name) else .error .noSuchEntry) →
      d.kindAt? (here ++ [name]) = none → Turn d here name
  | file (content : Content) : d.get? (here ++ [name]) = some (.leaf (.file content)) →
      (∀ last rest, d.walk last here (name :: rest) =
        if rest = [] then .ok (.found (here ++ [name]) (.leaf (.file content)))
        else .error .notDirectory) → Turn d here name
  | link (target : HostPath) : d.get? (here ++ [name]) = some (.leaf (.link target)) →
      (∀ last rest, d.walk last here (name :: rest) =
        if rest = [] ∧ last = false then .ok (.found (here ++ [name]) (.leaf (.link target)))
        else .ok (.jump here target rest)) → Turn d here name

theorem turn (d : Disk) (here : Place) (name : HostName) : Turn d here name := by
  cases reading name with
  | dot => exact .on here (fun last rest => walk_dot d last here rest) id
  | dotDot => exact .on here.dropLast (fun last rest => walk_dotDot d last here rest) kindAt?_dropLast
  | long refused => exact .long fun last rest => refused d last here rest
  | lookUp looksUp =>
      cases there : d.get? (here ++ [name]) with
      | none => exact .vacant (walk_absent looksUp there) (get?_eq_none_iff.mp there)
      | some node =>
          cases node with
          | dir entries =>
              exact .on (here ++ [name]) (walk_dir looksUp there) fun _ =>
                kindAt?_eq_dir_iff.mpr ⟨entries, there⟩
          | leaf item =>
              cases item with
              | file content => exact .file content there (walk_file looksUp there)
              | link target => exact .link target there (walk_link looksUp there)

/-- What is found is at the place where it is found. -/
theorem get?_of_walk (found : d.walk last here names = .ok (.found p node)) :
    d.get? p = some node := by
  induction names generalizing here with
  | nil =>
      rw [walk_nil] at found
      split at found
      · next there =>
          cases found
          exact there
      · cases found
  | cons name names ih =>
      cases d.turn here name with
      | on there onward =>
          rw [onward] at found
          exact ih found
      | long refused =>
          rw [refused] at found
          cases found
      | vacant nothing =>
          rw [nothing] at found
          split at found <;> cases found
      | file content there ends =>
          rw [ends] at found
          split at found
          · cases found
            exact there
          · cases found
      | link target there ends =>
          rw [ends] at found
          split at found
          · cases found
            exact there
          · cases found

/-- A path leads where its walk leads, or where the link leads that the walk comes to. -/
theorem follow_found_cases {links : Nat}
    (found : d.follow last links here names = .ok (.found p node)) :
    d.walk last here names = .ok (.found p node) ∨
      ∃ links' dir target rest, links = links' + 1 ∧
        d.walk last here names = .ok (.jump dir target rest) ∧
        d.follow last links' (if target.bytes.head? = some HostPath.slash then [] else dir)
          (target.steps ++ rest) = .ok (.found p node) := by
  unfold follow at found
  split at found
  · cases found
  · next walked =>
      cases found
      exact .inl walked
  · cases found
  · next dir target rest walked =>
      split at found
      · cases found
      · next links' => exact .inr ⟨links', dir, target, rest, rfl, walked, found⟩

/-- A path leads to where nothing is yet if its walk does, or what comes after a link. -/
theorem follow_vacant_cases {links : Nat} {name : HostName}
    (vacant : d.follow last links here names = .ok (.vacant dir name)) :
    d.walk last here names = .ok (.vacant dir name) ∨
      ∃ links' dir' target rest, links = links' + 1 ∧
        d.walk last here names = .ok (.jump dir' target rest) ∧
        d.follow last links' (if target.bytes.head? = some HostPath.slash then [] else dir')
          (target.steps ++ rest) = .ok (.vacant dir name) := by
  unfold follow at vacant
  split at vacant
  · cases vacant
  · cases vacant
  · next walked =>
      cases vacant
      exact .inl walked
  · next dir' target rest walked =>
      split at vacant
      · cases vacant
      · next links' => exact .inr ⟨links', dir', target, rest, rfl, walked, vacant⟩

theorem follow_of_found {links : Nat} (found : d.walk last here names = .ok (.found p node)) :
    d.follow last links here names = .ok (.found p node) := by
  unfold follow
  rw [found]

theorem follow_of_vacant {links : Nat} {name : HostName}
    (vacant : d.walk last here names = .ok (.vacant dir name)) :
    d.follow last links here names = .ok (.vacant dir name) := by
  unfold follow
  rw [vacant]

theorem follow_of_fault {links : Nat} {fault : Fault}
    (refused : d.walk last here names = .error fault) :
    d.follow last links here names = .error fault := by
  unfold follow
  rw [refused]

theorem follow_zero_of_jump {target : HostPath}
    (jump : d.walk last here xs = .ok (.jump dir target rest)) :
    d.follow last 0 here xs = .error .tooManyLinks := by
  rw [follow, jump]

theorem follow_of_jump {target : HostPath} {links : Nat}
    (jump : d.walk last here xs = .ok (.jump dir target rest)) :
    d.follow last (links + 1) here xs = d.follow last links
      (if target.bytes.head? = some HostPath.slash then [] else dir) (target.steps ++ rest) := by
  rw [follow, jump]

theorem get?_of_follow {links : Nat} (found : d.follow last links here names = .ok (.found p node)) :
    d.get? p = some node := by
  induction links generalizing here names with
  | zero =>
      rcases follow_found_cases found with walked | ⟨_, _, _, _, more, -⟩
      · exact get?_of_walk walked
      · cases more
  | succ links ih =>
      rcases follow_found_cases found with walked | ⟨_, dir, target, rest, more, -, onward⟩
      · exact get?_of_walk walked
      · cases more
        exact ih onward

/-! ### Host paths -/

section Resolve

variable {h : HostPath} {fault : Fault}

theorem resolve_of_check (taken : h.check = .ok ()) (last : Bool) :
    d.resolve last h = d.follow last maxLinks [] h.steps := by
  unfold resolve
  rw [taken]

theorem resolve_of_refused (refused : h.check = .error fault) (last : Bool) :
    d.resolve last h = .error fault := by
  unfold resolve
  rw [refused]

/-- A path leads somewhere if the host takes it, and its names do. -/
theorem resolve_eq_ok_iff {spot : Spot} : d.resolve last h = .ok spot ↔
    h.check = .ok () ∧ d.follow last maxLinks [] h.steps = .ok spot := by
  cases checked : h.check with
  | error fault => simp [resolve_of_refused checked]
  | ok => simp [resolve_of_check checked]

theorem get?_of_resolve (found : d.resolve last h = .ok (.found p node)) : d.get? p = some node :=
  get?_of_follow (resolve_eq_ok_iff.mp found).2

theorem stat_of_found (found : d.resolve true h = .ok (.found p node)) : d.stat h = .ok node := by
  unfold stat
  rw [found]

theorem stat_of_fault (refused : d.resolve true h = .error fault) : d.stat h = .error fault := by
  unfold stat
  rw [refused]

theorem stat_eq_ok_iff : d.stat h = .ok node ↔ ∃ p, d.resolve true h = .ok (.found p node) := by
  constructor
  · intro seen
    unfold stat at seen
    split at seen
    · cases seen
    · next p node' found =>
        obtain rfl := Except.ok.inj seen
        exact ⟨p, found⟩
    · cases seen
  · rintro ⟨p, found⟩
    exact stat_of_found found

theorem linkStat_eq_ok_iff :
    d.linkStat h = .ok node ↔ ∃ p, d.resolve false h = .ok (.found p node) := by
  unfold linkStat
  constructor
  · intro seen
    split at seen
    · cases seen
    · next p node' found =>
        obtain rfl := Except.ok.inj seen
        exact ⟨p, found⟩
    · cases seen
  · rintro ⟨p, found⟩
    rw [found]

theorem linkStat_of_fault (refused : d.resolve false h = .error fault) :
    d.linkStat h = .error fault := by
  unfold linkStat
  rw [refused]

theorem isDirectory_of_found {entries : Tree.Folder HostName DiskItem}
    (found : d.resolve true h = .ok (.found p (.dir entries))) : d.isDirectory h = true := by
  unfold isDirectory
  rw [stat_of_found found]
  rfl

end Resolve

/-! ### Paths in two parts -/

/-- A walk that ends at a directory can go on from there. -/
theorem walk_append_of_found {entries : Tree.Folder HostName DiskItem}
    (found : d.walk true here xs = .ok (.found p (.dir entries))) (last : Bool)
    (ys : List HostName) : d.walk last here (xs ++ ys) = d.walk last p ys := by
  induction xs generalizing here with
  | nil =>
      rw [walk_nil] at found
      split at found
      · cases found
        rfl
      · cases found
  | cons name xs ih =>
      rw [List.cons_append]
      cases d.turn here name with
      | on there onward =>
          rw [onward] at found ⊢
          exact ih found
      | long refused =>
          rw [refused] at found
          cases found
      | vacant nothing =>
          rw [nothing] at found
          split at found <;> cases found
      | file content there ends =>
          rw [ends] at found
          split at found <;> cases found
      | link target there ends =>
          rw [ends] at found
          split at found <;> cases found

/-- A walk that comes to a link comes to it with whatever is still to follow. -/
theorem walk_append_of_jump {target : HostPath}
    (jump : d.walk true here xs = .ok (.jump dir target rest)) (more : ys ≠ []) (last : Bool) :
    d.walk last here (xs ++ ys) = .ok (.jump dir target (rest ++ ys)) := by
  induction xs generalizing here with
  | nil =>
      rw [walk_nil] at jump
      split at jump <;> cases jump
  | cons name xs ih =>
      rw [List.cons_append]
      cases d.turn here name with
      | on there onward =>
          rw [onward] at jump ⊢
          exact ih jump
      | long refused =>
          rw [refused] at jump
          cases jump
      | vacant nothing =>
          rw [nothing] at jump
          split at jump <;> cases jump
      | file content there ends =>
          rw [ends] at jump
          split at jump <;> cases jump
      | link target there ends =>
          rw [ends, if_neg (by simp)] at jump
          cases jump
          rw [ends, if_neg (by simp [more])]

/-- Where a path leads is decided by its walk. -/
theorem follow_congr {here' : Place} (same : d.walk last here xs = d.walk last here' ys)
    (links : Nat) : d.follow last links here xs = d.follow last links here' ys := by
  unfold follow
  rw [same]

/-- A path goes on from the directory that its beginning leads to. -/
theorem follow_append {links : Nat} {entries : Tree.Folder HostName DiskItem}
    (found : d.follow true links here xs = .ok (.found p (.dir entries))) (more : ys ≠ [])
    (last : Bool) : ∃ links', d.follow last links here (xs ++ ys) = d.follow last links' p ys := by
  induction links generalizing here xs with
  | zero =>
      rcases follow_found_cases found with walked | ⟨_, _, _, _, another, -⟩
      · exact ⟨0, follow_congr (walk_append_of_found walked last ys) 0⟩
      · cases another
  | succ links ih =>
      rcases follow_found_cases found with walked | ⟨_, dir, target, rest, another, walked, onward⟩
      · exact ⟨links + 1, follow_congr (walk_append_of_found walked last ys) (links + 1)⟩
      · cases another
        obtain ⟨links', further⟩ := ih onward
        refine ⟨links', ?_⟩
        rw [follow_of_jump (walk_append_of_jump walked more last), ← List.append_assoc]
        exact further

/-- A dot at the end of a walk only asks for a directory. -/
theorem walk_of_concat_dot_found
    (found : d.walk true here (xs ++ [HostPath.dot]) = .ok (.found p node)) :
    d.walk true here xs = .ok (.found p node) := by
  induction xs generalizing here with
  | nil => rwa [List.nil_append, walk_dot] at found
  | cons name xs ih =>
      rw [List.cons_append] at found
      cases d.turn here name with
      | on there onward =>
          rw [onward] at found ⊢
          exact ih found
      | long refused =>
          rw [refused] at found
          cases found
      | vacant nothing =>
          rw [nothing, if_neg (by simp)] at found
          cases found
      | file content there ends =>
          rw [ends, if_neg (by simp)] at found
          cases found
      | link target there ends =>
          rw [ends, if_neg (by simp)] at found
          cases found

theorem walk_of_concat_dot_jump {target : HostPath} {rest' : List HostName}
    (jump : d.walk true here (xs ++ [HostPath.dot]) = .ok (.jump dir target rest')) :
    ∃ rest, rest' = rest ++ [HostPath.dot] ∧
      d.walk true here xs = .ok (.jump dir target rest) := by
  induction xs generalizing here with
  | nil =>
      rw [List.nil_append, walk_dot, walk_nil] at jump
      split at jump <;> cases jump
  | cons name xs ih =>
      rw [List.cons_append] at jump
      cases d.turn here name with
      | on there onward =>
          rw [onward] at jump ⊢
          exact ih jump
      | long refused =>
          rw [refused] at jump
          cases jump
      | vacant nothing =>
          rw [nothing, if_neg (by simp)] at jump
          cases jump
      | file content there ends =>
          rw [ends, if_neg (by simp)] at jump
          cases jump
      | link target there ends =>
          rw [ends, if_neg (by simp)] at jump
          cases jump
          refine ⟨xs, rfl, ?_⟩
          rw [ends, if_neg (by simp)]

theorem follow_of_concat_dot {links : Nat}
    (found : d.follow true links here (xs ++ [HostPath.dot]) = .ok (.found p node)) :
    d.follow true links here xs = .ok (.found p node) := by
  induction links generalizing here xs with
  | zero =>
      rcases follow_found_cases found with walked | ⟨_, _, _, _, another, -⟩
      · exact follow_of_found (walk_of_concat_dot_found walked)
      · cases another
  | succ links ih =>
      rcases follow_found_cases found with
        walked | ⟨_, dir, target, rest', another, walked, onward⟩
      · exact follow_of_found (walk_of_concat_dot_found walked)
      · cases another
        obtain ⟨rest, rfl, before⟩ := walk_of_concat_dot_jump walked
        rw [follow_of_jump before]
        rw [← List.append_assoc] at onward
        exact ih onward

/-- The names between the slashes of a path lead to the directory that the path leads
to, also if a slash at its end asks for a directory. -/
theorem follow_parts {h : HostPath} {entries : Tree.Folder HostName DiskItem}
    (found : d.resolve true h = .ok (.found p (.dir entries))) :
    h.check = .ok () ∧ d.follow true maxLinks [] h.parts = .ok (.found p (.dir entries)) := by
  obtain ⟨checked, found⟩ := resolve_eq_ok_iff.mp found
  refine ⟨checked, ?_⟩
  rcases h.steps_eq with same | dotted
  · rwa [same] at found
  · rw [dotted] at found
    exact follow_of_concat_dot found

/-- A walk that does not follow a link in the last place stops there, or goes on as one
that does. -/
theorem walk_false_of_jump {target : HostPath}
    (jump : d.walk true here xs = .ok (.jump dir target rest)) :
    d.walk false here xs = .ok (.jump dir target rest) ∨
      ∃ q node, d.walk false here xs = .ok (.found q node) := by
  induction xs generalizing here with
  | nil =>
      rw [walk_nil] at jump
      split at jump <;> cases jump
  | cons name xs ih =>
      cases d.turn here name with
      | on there onward =>
          rw [onward] at jump ⊢
          exact ih jump
      | long refused =>
          rw [refused] at jump
          cases jump
      | vacant nothing =>
          rw [nothing] at jump
          split at jump <;> cases jump
      | file content there ends =>
          rw [ends] at jump
          split at jump <;> cases jump
      | link target there ends =>
          rw [ends, if_neg (by simp)] at jump
          cases jump
          rw [ends]
          split
          · exact .inr ⟨_, _, rfl⟩
          · exact .inl rfl

theorem walk_false_of_found {entries : Tree.Folder HostName DiskItem}
    (found : d.walk true here xs = .ok (.found p (.dir entries))) :
    d.walk false here xs = .ok (.found p (.dir entries)) := by
  have without := walk_append_of_found found false []
  rwa [List.append_nil, walk_nil, get?_of_walk found] at without

/-- What a path leads to with links followed, it leads to without, or to a link. -/
theorem follow_false_of_found {links : Nat} {entries : Tree.Folder HostName DiskItem}
    (found : d.follow true links here xs = .ok (.found p (.dir entries))) :
    ∃ q node, d.follow false links here xs = .ok (.found q node) := by
  induction links generalizing here xs with
  | zero =>
      rcases follow_found_cases found with walked | ⟨_, _, _, _, another, -⟩
      · exact ⟨p, .dir entries, follow_of_found (walk_false_of_found walked)⟩
      · cases another
  | succ links ih =>
      rcases follow_found_cases found with walked | ⟨_, dir, target, rest, another, walked, onward⟩
      · exact ⟨p, .dir entries, follow_of_found (walk_false_of_found walked)⟩
      · cases another
        rcases walk_false_of_jump walked with jump | ⟨q, node, there⟩
        · rw [follow_of_jump jump]
          exact ih onward
        · exact ⟨q, node, follow_of_found there⟩

/-! ### Where there are no links -/

/-- There is no link below a place. -/
def NoLinks (d : Disk) (p : Place) : Prop :=
  ∀ xs target, d.kindAt? (p ++ xs) ≠ some (.leaf (.link target))

/-- Names that a host does not read as other places. -/
def NoDots (names : List HostName) : Prop :=
  ∀ name ∈ names, name ≠ HostPath.dot ∧ name ≠ HostPath.dotDot

theorem NoLinks.append (free : d.NoLinks p) (xs : List HostName) : d.NoLinks (p ++ xs) := by
  intro ys target
  rw [List.append_assoc]
  exact free (xs ++ ys) target

/-- One step of a walk among directories and files. -/
theorem walk_cons {name : HostName} {names : List HostName} (free : d.NoLinks here)
    (noDots : NoDots (name :: names)) : d.walk last here (name :: names) =
      if name.length > HostPath.maxName then .error .nameTooLong
      else match d.get? (here ++ [name]) with
        | none => if names = [] then .ok (.vacant here name) else .error .noSuchEntry
        | some (.dir _) => d.walk last (here ++ [name]) names
        | some (.leaf item) =>
          if names = [] then .ok (.found (here ++ [name]) (.leaf item)) else .error .notDirectory := by
  obtain ⟨notDot, notDotDot⟩ := noDots name List.mem_cons_self
  split
  · next long => rw [walk, if_neg notDot, if_neg notDotDot, if_pos long]
  next short =>
  have looksUp : LooksUp name := ⟨notDot, notDotDot, Nat.le_of_not_lt short⟩
  cases there : d.get? (here ++ [name]) with
  | none => exact walk_absent looksUp there last names
  | some node =>
      cases node with
      | dir entries => exact walk_dir looksUp there last names
      | leaf item =>
          cases item with
          | file content => exact walk_file looksUp there last names
          | link target =>
              exact absurd (kindAt?_eq_leaf_iff.mpr there) (free [name] target)

theorem get?_append (d : Disk) (p : Place) (xs : List HostName) :
    d.get? (p ++ xs) = (d.get? p).bind (Tree.get? xs) :=
  Tree.get?_append p xs (.dir d.top)

theorem get?_append_cons (d : Disk) (p : Place) (name : HostName) (xs : List HostName) :
    d.get? (p ++ name :: xs) = (d.get? (p ++ [name])).bind (Tree.get? xs) := by
  rw [← get?_append, List.append_assoc, List.singleton_append]

theorem walk_eq_found_iff (free : d.NoLinks here) (noDots : NoDots names) :
    d.walk last here names = .ok (.found p node) ↔
      p = here ++ names ∧ d.get? p = some node ∧
        ∀ name ∈ names, name.length ≤ HostPath.maxName := by
  induction names generalizing here with
  | nil =>
      rw [walk_nil, List.append_nil]
      constructor
      · intro walked
        split at walked
        · next there =>
            cases walked
            exact ⟨rfl, there, by simp⟩
        · cases walked
      · rintro ⟨rfl, there, -⟩
        rw [there]
  | cons name names ih =>
      rw [walk_cons free noDots]
      split
      · next long =>
          simp only [reduceCtorEq, false_iff]
          rintro ⟨-, -, short⟩
          exact absurd (short name List.mem_cons_self) (Nat.not_le.mpr long)
      next short =>
      have next := get?_append_cons d here name names
      cases there : d.get? (here ++ [name]) with
      | none =>
          rw [there, Option.bind_none] at next
          have nothing : ∀ p, p = here ++ name :: names → d.get? p ≠ some node := by
            rintro p rfl
            simp [next]
          constructor
          · intro walked
            dsimp only at walked
            split at walked <;> cases walked
          · rintro ⟨same, found, -⟩
            exact absurd found (nothing p same)
      | some t =>
          rw [there, Option.bind_some] at next
          cases t with
          | dir entries =>
              have further := ih (free.append [name]) fun n mem => noDots n (by simp [mem])
              dsimp only
              rw [further, List.append_assoc, List.singleton_append]
              simp [Nat.le_of_not_lt short]
          | leaf item =>
              cases names with
              | nil =>
                  simp only [if_true, Except.ok.injEq, Stop.found.injEq]
                  constructor
                  · rintro ⟨rfl, rfl⟩
                    exact ⟨rfl, there, by simpa using Nat.le_of_not_lt short⟩
                  · rintro ⟨rfl, found, -⟩
                    rw [there, Option.some.injEq] at found
                    exact ⟨rfl, found⟩
              | cons n names =>
                  simp only [reduceCtorEq, if_false, false_iff]
                  rintro ⟨rfl, found, -⟩
                  rw [next] at found
                  cases found

/-- A walk that finds nothing at its last name has found a directory before. -/
theorem exists_of_walk_vacant {entries : Tree.Folder HostName DiskItem} {name : HostName}
    (start : d.get? here = some (.dir entries)) (free : d.NoLinks here) (noDots : NoDots names)
    (vacant : d.walk last here names = .ok (.vacant dir name)) :
    ∃ front, names = front ++ [name] ∧ dir = here ++ front ∧ d.kindAt? dir = some .dir ∧
      d.get? (dir ++ [name]) = none ∧ ∀ n ∈ names, n.length ≤ HostPath.maxName := by
  induction names generalizing here entries with
  | nil =>
      rw [walk_nil, start] at vacant
      cases vacant
  | cons first names ih =>
      rw [walk_cons free noDots] at vacant
      split at vacant
      · cases vacant
      next short =>
      have here_short := Nat.le_of_not_lt short
      split at vacant
      · next absent =>
          split at vacant
          · next only =>
              cases vacant
              subst only
              have isDir := kindAt?_eq_dir_iff.mpr ⟨entries, start⟩
              exact ⟨[], rfl, by simp, isDir, absent, by simpa using here_short⟩
          · cases vacant
      · next inner there =>
          have noDots' : NoDots names := fun n mem => noDots n (List.mem_cons_of_mem _ mem)
          obtain ⟨front, rfl, rfl, isDir, absent, lengths⟩ :=
            ih there (free.append [first]) noDots' vacant
          refine ⟨first :: front, rfl, by simp, isDir, absent, ?_⟩
          intro n mem
          rcases List.mem_cons.mp mem with rfl | mem
          · exact here_short
          · exact lengths n mem
      · split at vacant <;> cases vacant

/-- No walk comes to a link. -/
theorem walk_ne_jump {target : HostPath} (free : d.NoLinks here) (noDots : NoDots names) :
    d.walk last here names ≠ .ok (.jump dir target rest) := by
  induction names generalizing here with
  | nil =>
      rw [walk_nil]
      split <;> simp
  | cons name names ih =>
      have noDots' : NoDots names := fun n mem => noDots n (List.mem_cons_of_mem _ mem)
      rw [walk_cons free noDots]
      split
      · simp
      split
      · split <;> simp
      · exact ih (free.append [name]) noDots'
      · split <;> simp

theorem follow_eq_found_iff (free : d.NoLinks here) (noDots : NoDots names) (links : Nat) :
    d.follow last links here names = .ok (.found p node) ↔
      p = here ++ names ∧ d.get? p = some node ∧
        ∀ name ∈ names, name.length ≤ HostPath.maxName := by
  have onward : d.walk last here names = .ok (.found p node) ↔ _ := walk_eq_found_iff free noDots
  rw [← onward]
  constructor
  · intro found
    rcases follow_found_cases found with walked | ⟨_, _, _, _, -, jump, -⟩
    · exact walked
    · exact absurd jump (walk_ne_jump free noDots)
  · exact follow_of_found

theorem follow_eq_vacant_iff {name : HostName} (free : d.NoLinks here) (noDots : NoDots names)
    (links : Nat) : d.follow last links here names = .ok (.vacant dir name) ↔
      d.walk last here names = .ok (.vacant dir name) := by
  constructor
  · intro vacant
    rcases follow_vacant_cases vacant with walked | ⟨_, _, _, _, -, jump, -⟩
    · exact walked
    · exact absurd jump (walk_ne_jump free noDots)
  · exact follow_of_vacant

theorem follow_eq_error_iff {fault : Fault} (free : d.NoLinks here) (noDots : NoDots names)
    (links : Nat) : d.follow last links here names = .error fault ↔
      d.walk last here names = .error fault := by
  cases walked : d.walk last here names with
  | error fault' => rw [follow_of_fault walked]; simp
  | ok stop =>
      cases stop with
      | found p node => rw [follow_of_found walked]; simp
      | vacant dir name => rw [follow_of_vacant walked]; simp
      | jump dir target rest => exact absurd walked (walk_ne_jump free noDots)

end Dfs.Disk
