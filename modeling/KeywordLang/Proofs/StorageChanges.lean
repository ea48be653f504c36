import KeywordLang.Proofs.Refusal
import KeywordLang.Storage.Files

/-!
What becomes of a tree when directories are made in it: nothing is lost or changed, and only
directories are new. If the directory is there already, nothing is new at all.
-/

namespace KeywordLang.Storage

/-- What stands at a place, whatever stands below it. -/
inductive Entry where
  | file (content : Bytes)
  | directory
deriving DecidableEq, Repr

namespace Node

variable {node child new : Node} {place other : Location} {name step : String}

def entry : Node → Entry
  | .file content => .file content
  | .directory _ => .directory

/-- What stands at a place below a node, if anything does. -/
def entryAt? (node : Node) (place : Location) : Option Entry :=
  (node.at? place).map entry

/-- All that stands below a node stays as it is, and only directories are new. -/
def Gains (node node' : Node) : Prop :=
  ∀ place, node'.entryAt? place = node.entryAt? place ∨
    node.entryAt? place = none ∧ node'.entryAt? place = some .directory

theorem at?_append (node : Node) (place other : Location) :
    node.at? (place ++ other) = (node.at? place).bind (·.at? other) := by
  induction place generalizing node with
  | nil => rfl
  | cons name place ih =>
      rw [List.cons_append, at?, at?]
      cases node.entries.lookup name with
      | none => rfl
      | some child => exact ih child

theorem at?_cons_of_lookup (h : node.entries.lookup name = some child) :
    node.at? (name :: place) = child.at? place := by
  rw [at?, h]

theorem at?_cons_of_missing (h : node.entries.lookup name = none) :
    node.at? (name :: place) = none := by
  rw [at?, h]

theorem exists_child_of_at? (h : node.at? (name :: place) = some child) :
    ∃ next, node.entries.lookup name = some next ∧ next.at? place = some child := by
  cases hnext : node.entries.lookup name with
  | none =>
      rw [at?_cons_of_missing hnext] at h
      cases h
  | some next =>
      rw [at?_cons_of_lookup hnext] at h
      exact ⟨next, rfl, h⟩

theorem entry_of_lookup (h : node.entries.lookup name = some child) :
    node.entry = .directory := by
  cases node with
  | file content => cases h
  | directory entries => rfl

theorem lookup_filter_ne (entries : List (String × Node)) (h : step ≠ name) :
    (entries.filter (·.1 ≠ name)).lookup step = entries.lookup step := by
  induction entries with
  | nil => rfl
  | cons x entries ih =>
      obtain ⟨key, child⟩ := x
      by_cases hkey : key = name
      · have hstep : (step == key) = false := by simpa [hkey] using h
        rw [List.filter_cons_of_neg (by simp [hkey]), ih, List.lookup_cons, hstep]
      · rw [List.filter_cons_of_pos (by simp [hkey]), List.lookup_cons, ih, List.lookup_cons]

theorem at?_put_of_ne (h : step ≠ name) :
    (node.put (name :: place) new).at? (step :: other) = node.at? (step :: other) := by
  have hstep : (step == name) = false := by simpa using h
  rw [at?, at?, put, entries, List.lookup_cons, hstep, lookup_filter_ne _ h]

theorem at?_put_cons (node : Node) (name : String) (place other : Location) (new : Node) :
    (node.put (name :: place) new).at? (name :: other) =
      (((node.entries.lookup name).getD (.directory [])).put place new).at? other := by
  rw [put, at?, entries, List.lookup_cons_self]

theorem gains_put {entries : List (String × Node)}
    (hplace : node.at? place = some (.directory entries))
    (hname : entries.lookup name = none) :
    node.Gains (node.put (place ++ [name]) (.directory [])) := by
  induction place generalizing node with
  | nil =>
      obtain rfl : node = .directory entries := Option.some.inj hplace
      intro other
      cases other with
      | nil => exact .inl rfl
      | cons step other =>
          by_cases hstep : step = name
          · subst hstep
            have hbefore : (directory entries).entryAt? (step :: other) = none := by
              rw [entryAt?, at?_cons_of_missing hname]
              rfl
            rw [hbefore, entryAt?, List.nil_append, at?_put_cons, put]
            cases other with
            | nil => exact .inr ⟨rfl, rfl⟩
            | cons next other => exact .inl rfl
          · left
            rw [entryAt?, List.nil_append, at?_put_of_ne hstep, entryAt?]
  | cons first place ih =>
      obtain ⟨child, hchild, hbelow⟩ := exists_child_of_at? hplace
      intro other
      cases other with
      | nil =>
          left
          exact congrArg some (entry_of_lookup hchild).symm
      | cons step other =>
          by_cases hstep : step = first
          · subst hstep
            rw [entryAt?, List.cons_append, at?_put_cons, hchild, Option.getD_some, entryAt?,
              at?_cons_of_lookup hchild]
            exact ih hbelow other
          · left
            rw [entryAt?, List.cons_append, at?_put_of_ne hstep, entryAt?]

end Node

namespace Spot

variable {root : Node} {s s' : Spot} {step name : String} {steps : List String}
  {found : Option Node}

/-- The spots of a tree: a walk begins at the root and enters what stands in a directory. -/
inductive Reached (root : Node) : Spot → Prop where
  | start : Reached root { node := root }
  | enter {s : Spot} {name : String} {child : Node} (h : Reached root s)
      (hchild : s.node.entries.lookup name = some child) :
      Reached root { node := child, above := (name, s.node) :: s.above }

theorem Reached.at? (h : Reached root s) : root.at? s.location = some s.node := by
  induction h with
  | start => rfl
  | @enter s name child _ hchild ih =>
      have hlocation : location { node := child, above := (name, s.node) :: s.above } =
          s.location ++ [name] := by simp [location]
      rw [hlocation, Node.at?_append, ih, Option.bind_some, Node.at?_cons_of_lookup hchild]
      rfl

theorem Reached.up (h : Reached root s) : Reached root s.up := by
  cases h with
  | start => exact .start
  | enter h hchild => exact h

theorem look_eq_ok_iff : s.look name = .ok found ↔
    ∃ entries, s.node = .directory entries ∧ name.utf8ByteSize ≤ maxNameSize ∧
      entries.lookup name = found := by
  obtain ⟨node, above⟩ := s
  cases node with
  | file content => simp [look]
  | directory entries =>
      by_cases hsize : maxNameSize < name.utf8ByteSize
      · simp [look, hsize, Nat.not_le.mpr hsize]
      · simp [look, hsize, Nat.not_lt.mp hsize]

theorem descend_here {entries : List (String × Node)} (h : s.node = .directory entries) :
    s.descend "." = .ok s := by
  have hlook : s.look "." = .ok (entries.lookup ".") :=
    look_eq_ok_iff.mpr ⟨entries, h, by decide, rfl⟩
  rw [descend, hlook]
  rfl

theorem descend_cases (h : s.descend step = .ok s') :
    ∃ found, s.look step = .ok found ∧
      (Path.isHere step = true ∧ s' = s ∨ Path.isUp step = true ∧ s' = s.up ∨
        ∃ child, found = some child ∧
          s' = { node := child, above := (step, s.node) :: s.above }) := by
  obtain ⟨found, hlook, h⟩ := bind_eq_ok_iff.mp h
  refine ⟨found, hlook, ?_⟩
  split at h
  · next hhere => exact .inl ⟨hhere, (Except.ok.inj h).symm⟩
  · split at h
    · next hup => exact .inr (.inl ⟨hup, (Except.ok.inj h).symm⟩)
    · cases found with
      | none => cases h
      | some child => exact .inr (.inr ⟨child, rfl, (Except.ok.inj h).symm⟩)

theorem Reached.descend (h : Reached root s) (hstep : s.descend step = .ok s') :
    Reached root s' := by
  obtain ⟨found, hlook, hcases⟩ := descend_cases hstep
  rcases hcases with ⟨-, rfl⟩ | ⟨-, rfl⟩ | ⟨child, rfl, rfl⟩
  · exact h
  · exact h.up
  · obtain ⟨entries, hnode, -, hchild⟩ := look_eq_ok_iff.mp hlook
    refine h.enter ?_
    rw [hnode]
    exact hchild

theorem Reached.walk (h : Reached root s) (hsteps : steps.foldlM Spot.descend s = .ok s') :
    Reached root s' := by
  induction steps generalizing s with
  | nil =>
      obtain rfl := Except.ok.inj hsteps
      exact h
  | cons step steps ih =>
      rw [List.foldlM_cons] at hsteps
      obtain ⟨next, hstep, hsteps⟩ := bind_eq_ok_iff.mp hsteps
      exact ih (h.descend hstep) hsteps

end Spot

namespace FileTree

variable {t t' u : FileTree} {p : Path} {spot : Spot} {name : String}

def entryAt? (t : FileTree) (place : Location) : Option Entry :=
  t.root.entryAt? place

/-- All that is in a tree stays as it is, and only directories are new. -/
structure Gains (t t' : FileTree) : Prop where
  home : t'.home = t.home
  root : t.root.Gains t'.root

theorem Gains.refl (t : FileTree) : t.Gains t :=
  ⟨rfl, fun _ => .inl rfl⟩

theorem Gains.trans (h : t.Gains t') (h' : t'.Gains u) : t.Gains u := by
  refine ⟨h'.home.trans h.home, fun place => ?_⟩
  rcases h'.root place with hlast | ⟨hnone, hlast⟩
  · rw [hlast]
    exact h.root place
  · rcases h.root place with hfirst | ⟨-, hfirst⟩
    · exact .inr ⟨hfirst.symm.trans hnone, hlast⟩
    · rw [hnone] at hfirst
      cases hfirst

theorem reached_of_locateLast (h : t.locateLast p = .ok (some (spot, name))) :
    spot.Reached t.root := by
  obtain ⟨-, h⟩ := check_bind_eq_ok_iff.mp h
  split at h
  · cases h
  · obtain ⟨found, hfollow, h⟩ := bind_eq_ok_iff.mp h
    cases h
    exact Spot.Reached.start.walk hfollow

theorem gains_of_makeDirectory (h : t.makeDirectory p = .ok t') : t.Gains t' := by
  obtain ⟨last, hlast, h⟩ := bind_eq_ok_iff.mp h
  cases last with
  | none => cases h
  | some last =>
      obtain ⟨spot, name⟩ := last
      obtain ⟨found, hlook, h⟩ := bind_eq_ok_iff.mp h
      split at h
      · cases h
      · next hfree =>
          obtain rfl := Except.ok.inj h
          obtain ⟨entries, hnode, -, hfound⟩ := Spot.look_eq_ok_iff.mp hlook
          have hplace := (reached_of_locateLast hlast).at?
          rw [hnode] at hplace
          refine ⟨rfl, Node.gains_put hplace ?_⟩
          cases found with
          | none => exact hfound
          | some child => simp at hfree

theorem follow_append (t : FileTree) (p : Path) (steps steps' : List String) :
    t.follow p (steps ++ steps') = t.follow p steps >>= steps'.foldlM Spot.descend := by
  rw [follow, ← List.append_assoc, List.foldlM_append]
  rfl

theorem makeDirectory_of_locate {step : String} {above : List String}
    (hstep : Path.isHere step = false)
    (h : t.locate ⟨(step :: above).reverse⟩ = .ok spot) :
    t.makeDirectory ⟨(step :: above).reverse⟩ = .error .alreadyExists := by
  obtain ⟨hcheck, hfollow⟩ := check_bind_eq_ok_iff.mp h
  have hpieces : ((step :: above).reverse.reverse.dropWhile (· = "")) = step :: above := by
    rw [List.reverse_reverse, List.dropWhile_cons_of_neg]
    rintro hempty
    rw [decide_eq_true_eq] at hempty
    rw [hempty] at hstep
    cases hstep
  -- The last step is taken in the directory to which the others lead.
  rw [List.reverse_cons] at hcheck hfollow hpieces ⊢
  rw [follow_append] at hfollow
  obtain ⟨spot, habove, hdescend⟩ := bind_eq_ok_iff.mp hfollow
  rw [List.foldlM_cons] at hdescend
  obtain ⟨next, hdescend, -⟩ := bind_eq_ok_iff.mp hdescend
  obtain ⟨found, hlook, hcases⟩ := Spot.descend_cases hdescend
  obtain ⟨entries, hnode, -⟩ := Spot.look_eq_ok_iff.mp hlook
  have hhere : t.follow ⟨above.reverse ++ [step]⟩ (above.reverse ++ ["."]) = .ok spot := by
    rw [follow_append, habove]
    change (["."].foldlM Spot.descend spot) = _
    rw [List.foldlM_cons, Spot.descend_here hnode]
    rfl
  have hlast : t.locateLast ⟨above.reverse ++ [step]⟩ = .ok (some (spot, step)) := by
    rw [locateLast, hcheck, hpieces]
    change (t.follow _ _ >>= _) = _
    rw [hhere]
    rfl
  have htaken : (Path.isHere step || Path.isUp step || found.isSome) = true := by
    rcases hcases with ⟨hhere, -⟩ | ⟨hup, -⟩ | ⟨child, rfl, -⟩
    · rw [hhere]
      rfl
    · rw [hup, Bool.or_true]
      rfl
    · exact Bool.or_true _
  rw [makeDirectory, hlast]
  change (spot.look step >>= _) = _
  rw [hlook]
  exact if_pos htaken

/-- A path that ends in a slash means a directory, and no file can be written there. -/
theorem exists_error_of_endsInSlash (t : FileTree) (content : Bytes)
    (h : p.endsInSlash = true) : ∃ e, t.writeBytes p content = .error e := by
  rw [writeBytes]
  cases t.locateLast p with
  | error e => exact ⟨e, rfl⟩
  | ok last =>
      cases last with
      | none => exact ⟨_, rfl⟩
      | some last => exact ⟨.isDirectory, if_pos (by rw [h]; rfl)⟩

end FileTree

section Actions

variable {α β : Type} {t : FileTree}

/-- An action that does nothing to a tree but add directories. -/
def AddsDirectories (action : StateM FileTree α) : Prop :=
  ∀ t : FileTree, t.Gains (action.run t).2

theorem AddsDirectories.pure (a : α) : AddsDirectories (Pure.pure a) :=
  FileTree.Gains.refl

theorem AddsDirectories.bind {action : StateM FileTree α} {next : α → StateM FileTree β}
    (h : AddsDirectories action) (hnext : ∀ a, AddsDirectories (next a)) :
    AddsDirectories (action >>= next) :=
  fun t => (h t).trans (hnext _ _)

/-- The action of a change that leaves the tree as it is where it fails. -/
def changing (change : FileTree → Except StorageError FileTree) :
    StateM FileTree (Except StorageError Unit) := fun t =>
  match change t with
  | .ok t' => (.ok (), t')
  | .error e => (.error e, t)

theorem run_changing_of_error {change : FileTree → Except StorageError FileTree}
    {e : StorageError} (h : change t = .error e) : (changing change).run t = (.error e, t) := by
  rw [StateT.run, changing, h]

theorem run_changing_of_ok {change : FileTree → Except StorageError FileTree} {t' : FileTree}
    (h : change t = .ok t') : (changing change).run t = (.ok (), t') := by
  rw [StateT.run, changing, h]

theorem makeDirectory_ofTree (p : Path) :
    Files.ofTree.makeDirectory p = changing (·.makeDirectory p) :=
  rfl

theorem run_readText (p : Path) (t : FileTree) :
    (Files.ofTree.readText p).run t = (t.readText p, t) :=
  rfl

theorem addsDirectories_makeDirectory (p : Path) :
    AddsDirectories (Files.ofTree.makeDirectory p) := by
  intro t
  rw [makeDirectory_ofTree]
  cases h : t.makeDirectory p with
  | error e =>
      rw [run_changing_of_error h]
      exact .refl t
  | ok t' =>
      rw [run_changing_of_ok h]
      exact FileTree.gains_of_makeDirectory h

theorem addsDirectories_ensureDirectory (p : Path) :
    AddsDirectories (Files.ofTree.ensureDirectory p) := by
  refine (addsDirectories_makeDirectory p).bind fun made => ?_
  cases made with
  | ok _ => exact .pure _
  | error e => exact .bind FileTree.Gains.refl fun _ => .pure _

theorem addsDirectories_makeDirectories (steps : List String) :
    AddsDirectories (Files.ofTree.makeDirectories steps) := by
  induction steps with
  | nil => exact .pure _
  | cons step above ih =>
      rw [Files.makeDirectories]
      split
      · exact ih
      · refine (addsDirectories_ensureDirectory _).bind fun ensured => ?_
        split
        · refine ih.bind fun made => ?_
          cases made with
          | ok _ => exact addsDirectories_ensureDirectory _
          | error e => exact .pure _
        · exact .pure _

/-- The path of the directory that is to hold the last name of a path. -/
def Path.parent (p : Path) : Path where
  pieces := ((p.pieces.reverse.dropWhile isHere).tail.dropWhile isHere).reverse

theorem run_ensureDirectory_of_isDirectory {step : String} {above : List String}
    (hstep : Path.isHere step = false) (h : t.isDirectory ⟨(step :: above).reverse⟩ = true) :
    (Files.ofTree.ensureDirectory ⟨(step :: above).reverse⟩).run t = (.ok (), t) := by
  have hmake : t.makeDirectory ⟨(step :: above).reverse⟩ = .error .alreadyExists := by
    unfold FileTree.isDirectory at h
    split at h
    · next spot hlocate => exact FileTree.makeDirectory_of_locate hstep hlocate
    · cases h
  rw [Files.ensureDirectory, StateT.run_bind, makeDirectory_ofTree,
    run_changing_of_error hmake]
  change ((if t.isDirectory _ = true then Except.ok () else Except.error _), t) = _
  rw [if_pos h]

theorem run_makeDirectories_of_isDirectory {steps : List String}
    (h : t.isDirectory ⟨(steps.dropWhile Path.isHere).reverse⟩ = true) :
    (Files.ofTree.makeDirectories steps).run t = (.ok (), t) := by
  induction steps with
  | nil => rfl
  | cons step above ih =>
      rw [Files.makeDirectories]
      split
      · next hstep =>
          rw [List.dropWhile_cons_of_pos hstep] at h
          exact ih h
      · next hstep =>
          rw [List.dropWhile_cons_of_neg hstep] at h
          rw [Bool.not_eq_true] at hstep
          rw [StateT.run_bind, run_ensureDirectory_of_isDirectory hstep h]
          rfl

/-- A tree once the directory is made that is to hold the last name of a path, as far as that
can be done. -/
def FileTree.withParent (t : FileTree) (p : Path) : FileTree :=
  ((Files.ofTree.makeParent p).run t).2

theorem FileTree.gains_withParent (t : FileTree) (p : Path) : t.Gains (t.withParent p) :=
  addsDirectories_makeDirectories _ t

theorem FileTree.withParent_of_isDirectory {p : Path} (h : t.isDirectory p.parent = true) :
    t.withParent p = t := by
  rw [withParent, Files.makeParent, run_makeDirectories_of_isDirectory h]

end Actions

end KeywordLang.Storage
