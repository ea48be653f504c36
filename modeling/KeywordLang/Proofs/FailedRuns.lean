import KeywordLang.Command.Run
import KeywordLang.Proofs.StorageChanges
import Mathlib.Data.List.Basic

/-!
Runs in memory that fail. Up to the code nothing is changed. Then a standard output that
fails may have taken some of the code, and the directories above an output file are made
before the code can be written, and stay if it cannot.
-/

namespace KeywordLang.Command

open Storage (Bytes Files FileTree Path StorageError)

section InMemory

variable {α β : Type} {w : World} {t : FileTree} {outlet : Outlet}

theorem World.run_onTree {action : StateM FileTree α} {a : α}
    (h : action.run w.tree = (a, t)) : (onTree action).run w = (a, { w with tree := t }) := by
  rw [StateT.run, onTree, h]

theorem World.onTree_bind (action : StateM FileTree α) (next : α → StateM FileTree β) :
    onTree (action >>= next) = onTree action >>= fun a => onTree (next a) :=
  rfl

theorem ensureDirectory_inMemory (p : Path) :
    (Host.inMemory outlet).ensureDirectory p = World.onTree (Files.ofTree.ensureDirectory p) := by
  rw [Files.ensureDirectory, Files.ensureDirectory, World.onTree_bind]
  congr
  funext made
  cases made with
  | error e => rfl
  | ok _ => rfl

theorem makeDirectories_inMemory (steps : List String) :
    (Host.inMemory outlet).makeDirectories steps =
      World.onTree (Files.ofTree.makeDirectories steps) := by
  induction steps with
  | nil => rfl
  | cons step above ih =>
      rw [Files.makeDirectories, Files.makeDirectories]
      split
      · exact ih
      · dsimp only
        rw [ensureDirectory_inMemory, World.onTree_bind]
        congr
        funext ensured
        split
        · rw [ih, World.onTree_bind]
          congr
          funext made
          cases made with
          | error e => rfl
          | ok _ => rfl
        · rfl

theorem World.run_write_of_whole {bytes : Bytes} (h : outlet bytes = none) :
    (write outlet bytes).run w = (.ok (), { w with stdout := w.stdout ++ bytes }) := by
  rw [StateT.run, write, h]

theorem World.run_write_of_cut {bytes : Bytes} {count : Nat} {cause : StorageError}
    (h : outlet bytes = some (count, cause)) :
    (write outlet bytes).run w =
      (.error cause, { w with stdout := w.stdout ++ bytes.take count }) := by
  rw [StateT.run, write, h]

end InMemory

section Stages

variable {α β : Type} {w w' : World} {stage : Stage (StateM World) α}
  {next : α → Stage (StateM World) β}

/-- What a stage comes to in memory. -/
def Stage.on (stage : Stage (StateM World) α) (w : World) : Except Failure α × World :=
  (ExceptT.run stage).run w

theorem Stage.on_bind_of_ok {a : α} (h : stage.on w = (.ok a, w')) :
    (stage >>= next).on w = (next a).on w' := by
  rw [on] at h
  rw [on, ExceptT.run_bind, StateT.run_bind, h]
  rfl

theorem Stage.on_bind_of_error {failure : Failure} (h : stage.on w = (.error failure, w')) :
    (stage >>= next).on w = (.error failure, w') := by
  rw [on] at h
  rw [on, ExceptT.run_bind, StateT.run_bind, h]
  rfl

theorem Stage.on_access (blame : StorageError → Failure)
    (action : StateM World (Except StorageError α)) (w : World) :
    (Stage.access blame action).on w = ((action.run w).1.mapError blame, (action.run w).2) :=
  rfl

theorem Stage.on_access_of_ok {blame : StorageError → Failure}
    {action : StateM World (Except StorageError α)} {a : α} (h : action.run w = (.ok a, w')) :
    (Stage.access blame action).on w = (.ok a, w') := by
  rw [on_access, h]
  rfl

theorem Stage.on_access_of_error {blame : StorageError → Failure}
    {action : StateM World (Except StorageError α)} {cause : StorageError}
    (h : action.run w = (.error cause, w')) :
    (Stage.access blame action).on w = (.error (blame cause), w') := by
  rw [on_access, h]
  rfl

theorem Stage.on_report (outlet : Outlet) (options : Options) (progress : Progress) (w : World) :
    ∃ stderr, (Stage.report (.inMemory outlet) options progress).on w =
      (.ok (), { w with stderr }) := by
  rw [report]
  split
  · exact ⟨_, rfl⟩
  · exact ⟨w.stderr, rfl⟩

end Stages

def dialectOf (t : FileTree) : Option String → Except Failure Dialect
  | none => .ok .standard
  | some path => do
      let text ← (t.readText (.parse path)).mapError (.dialectUnreadable path)
      (Dialect.load text).mapError (.dialectRejected path)

/-- The code that a run on a tree is to hand over. -/
def codeOf (t : FileTree) (options : Options) : Except Failure String := do
  let d ← dialectOf t options.dialect
  let source ← (t.readText (.parse options.input)).mapError (.sourceUnreadable options.input)
  (compile d options.mode source).mapError .sourceRejected

section Runs

variable {outlet : Outlet} {w w' w₁ w₂ : World} {t t' : FileTree} {arguments : List String}
  {options : Options} {status : UInt32} {code path : String} {cause : StorageError}

theorem run_readText (outlet : Outlet) (p : Path) (w : World) :
    ((Host.inMemory outlet).readText p).run w = (w.tree.readText p, w) :=
  rfl

theorem on_loadDialect (outlet : Outlet) (path : Option String) (w : World) :
    (loadDialect (.inMemory outlet) path).on w = (dialectOf w.tree path, w) := by
  cases path with
  | none => rfl
  | some path =>
      have hread := run_readText outlet (.parse path) w
      rw [loadDialect, dialectOf]
      cases htext : w.tree.readText (.parse path) with
      | error cause =>
          rw [htext] at hread
          rw [Stage.on_bind_of_error (Stage.on_access_of_error hread)]
          rfl
      | ok text =>
          rw [htext] at hread
          rw [Stage.on_bind_of_ok (Stage.on_access_of_ok hread)]
          change Stage.on _ w = ((Dialect.load text).mapError _, w)
          cases Dialect.load text with
          | error cause => rfl
          | ok d => rfl

/-- What is done once the code is there. -/
def handOver (outlet : Outlet) (options : Options) (code : String) : Stage (StateM World) Unit := do
  deliver (.inMemory outlet) code options.output
  Stage.report (.inMemory outlet) options .complete

/-- A run first finds the code, which shows on the standard error output at most, and then
hands it over. -/
theorem exists_on_compileFiles (outlet : Outlet) (options : Options) (w : World) :
    ∃ stderr, (compileFiles (.inMemory outlet) options).on w =
      match codeOf w.tree options with
      | .error failure => (.error failure, { w with stderr })
      | .ok code => (handOver outlet options code).on { w with stderr } := by
  have hdialect := on_loadDialect outlet options.dialect w
  rw [compileFiles]
  cases hd : dialectOf w.tree options.dialect with
  | error failure =>
      have hcode : codeOf w.tree options = .error failure := by
        rw [codeOf, hd]
        rfl
      rw [hd] at hdialect
      rw [hcode, Stage.on_bind_of_error hdialect]
      exact ⟨w.stderr, rfl⟩
  | ok d =>
      rw [hd] at hdialect
      obtain ⟨stderr, hready⟩ := Stage.on_report outlet options
        (.dialectReady d.builtins.length d.maxNameLength) w
      rw [Stage.on_bind_of_ok hdialect, Stage.on_bind_of_ok hready]
      have hread := run_readText outlet (.parse options.input) { w with stderr }
      cases hsource : w.tree.readText (.parse options.input) with
      | error cause =>
          have hcode : codeOf w.tree options = .error (.sourceUnreadable options.input cause) := by
            rw [codeOf, hd, hsource]
            rfl
          rw [hsource] at hread
          rw [hcode, Stage.on_bind_of_error (Stage.on_access_of_error hread)]
          exact ⟨stderr, rfl⟩
      | ok source =>
          have hcode : codeOf w.tree options =
              (compile d options.mode source).mapError .sourceRejected := by
            rw [codeOf, hd, hsource]
            rfl
          obtain ⟨stderr', hloaded⟩ := Stage.on_report outlet options
            (.sourceLoaded source.utf8ByteSize) { w with stderr }
          rw [hsource] at hread
          rw [hcode, Stage.on_bind_of_ok (Stage.on_access_of_ok hread),
            Stage.on_bind_of_ok hloaded]
          cases compile d options.mode source with
          | error cause => exact ⟨stderr', rfl⟩
          | ok code =>
              obtain ⟨stderr'', hcompiled⟩ := Stage.on_report outlet options
                (.compiled options.mode code.utf8ByteSize) { w with stderr := stderr' }
              exact ⟨stderr'', Stage.on_bind_of_ok hcompiled⟩

/-- All that a run with options can come to: its exit status, and what it leaves. -/
inductive Ends (outlet : Outlet) (w : World) (options : Options) : UInt32 → World → Prop where
  | refused {failure : Failure} {stderr : String} (h : codeOf w.tree options = .error failure) :
      Ends outlet w options 1 { w with stderr }
  | printed {code stderr : String} (h : codeOf w.tree options = .ok code)
      (houtput : options.output = none) (hprint : outlet (.ofText code) = none) :
      Ends outlet w options 0 { w with stdout := w.stdout ++ .ofText code, stderr }
  | unprinted {code stderr : String} {count : Nat} {cause : StorageError}
      (h : codeOf w.tree options = .ok code) (houtput : options.output = none)
      (hprint : outlet (.ofText code) = some (count, cause)) :
      Ends outlet w options 1
        { w with stdout := w.stdout ++ (Bytes.ofText code).take count, stderr }
  | stuck {code path stderr : String} {cause : StorageError} {t : FileTree}
      (h : codeOf w.tree options = .ok code) (houtput : options.output = some path)
      (hparent : (Files.ofTree.makeParent (.parse path)).run w.tree = (.error cause, t)) :
      Ends outlet w options 1 { w with tree := t, stderr }
  | unwritten {code path stderr : String} {cause : StorageError} {t : FileTree}
      (h : codeOf w.tree options = .ok code) (houtput : options.output = some path)
      (hparent : (Files.ofTree.makeParent (.parse path)).run w.tree = (.ok (), t))
      (hwrite : t.writeBytes (.parse path) (.ofText code) = .error cause) :
      Ends outlet w options 1 { w with tree := t, stderr }
  | written {code path stderr : String} {t t' : FileTree}
      (h : codeOf w.tree options = .ok code) (houtput : options.output = some path)
      (hparent : (Files.ofTree.makeParent (.parse path)).run w.tree = (.ok (), t))
      (hwrite : t.writeBytes (.parse path) (.ofText code) = .ok t') :
      Ends outlet w options 0 { w with tree := t', stderr }

theorem run_makeParent {made : Except StorageError Unit}
    (h : (Files.ofTree.makeParent (.parse path)).run w.tree = (made, t)) :
    ((Host.inMemory outlet).makeParent (.parse path)).run w = (made, { w with tree := t }) := by
  rw [Files.makeParent, makeDirectories_inMemory]
  exact World.run_onTree h

theorem on_deliver_of_printed (hprint : outlet (.ofText code) = none) :
    (deliver (.inMemory outlet) code none).on w =
      (.ok (), { w with stdout := w.stdout ++ .ofText code }) :=
  Stage.on_access_of_ok (World.run_write_of_whole hprint)

theorem on_deliver_of_unprinted {count : Nat}
    (hprint : outlet (.ofText code) = some (count, cause)) :
    (deliver (.inMemory outlet) code none).on w =
      (.error (.codeUnprintable cause),
        { w with stdout := w.stdout ++ (Bytes.ofText code).take count }) :=
  Stage.on_access_of_error (World.run_write_of_cut hprint)

theorem on_deliver_of_stuck
    (hparent : (Files.ofTree.makeParent (.parse path)).run w.tree = (.error cause, t)) :
    (deliver (.inMemory outlet) code (some path)).on w =
      (.error (.codeUnwritable path cause), { w with tree := t }) :=
  Stage.on_bind_of_error (Stage.on_access_of_error (run_makeParent hparent))

theorem on_deliver_of_unwritten
    (hparent : (Files.ofTree.makeParent (.parse path)).run w.tree = (.ok (), t))
    (hwrite : t.writeBytes (.parse path) (.ofText code) = .error cause) :
    (deliver (.inMemory outlet) code (some path)).on w =
      (.error (.codeUnwritable path cause), { w with tree := t }) := by
  have hrun : (Files.ofTree.writeText (.parse path) code).run t = (.error cause, t) :=
    Storage.run_changing_of_error hwrite
  rw [deliver, Stage.on_bind_of_ok (Stage.on_access_of_ok (run_makeParent hparent))]
  exact Stage.on_access_of_error (World.run_onTree hrun)

theorem on_deliver_of_written
    (hparent : (Files.ofTree.makeParent (.parse path)).run w.tree = (.ok (), t))
    (hwrite : t.writeBytes (.parse path) (.ofText code) = .ok t') :
    (deliver (.inMemory outlet) code (some path)).on w = (.ok (), { w with tree := t' }) := by
  have hrun : (Files.ofTree.writeText (.parse path) code).run t = (.ok (), t') :=
    Storage.run_changing_of_ok hwrite
  rw [deliver, Stage.on_bind_of_ok (Stage.on_access_of_ok (run_makeParent hparent))]
  exact Stage.on_access_of_ok (World.run_onTree hrun)

theorem eq_of_runOptions_error {failure : Failure}
    (hrun : (runOptions (.inMemory outlet) options).run w = (status, w'))
    (h : (compileFiles (.inMemory outlet) options).on w = (.error failure, w₁)) :
    ∃ stderr, status = 1 ∧ w' = { w₁ with stderr } := by
  rw [Stage.on] at h
  rw [runOptions, StateT.run_bind, h] at hrun
  cases hrun
  exact ⟨_, rfl, rfl⟩

theorem eq_of_delivered {output : Option String}
    (hrun : (runOptions (.inMemory outlet) options).run w = (status, w'))
    (h : (compileFiles (.inMemory outlet) options).on w = (handOver outlet options code).on w₁)
    (houtput : options.output = output)
    (hdeliver : (deliver (.inMemory outlet) code output).on w₁ = (.ok (), w₂)) :
    ∃ stderr, status = 0 ∧ w' = { w₂ with stderr } := by
  obtain ⟨stderr, hcomplete⟩ := Stage.on_report outlet options .complete w₂
  rw [handOver, houtput, Stage.on_bind_of_ok hdeliver, hcomplete, Stage.on] at h
  rw [runOptions, StateT.run_bind, h] at hrun
  cases hrun
  exact ⟨stderr, rfl, rfl⟩

theorem eq_of_undelivered {output : Option String} {failure : Failure}
    (hrun : (runOptions (.inMemory outlet) options).run w = (status, w'))
    (h : (compileFiles (.inMemory outlet) options).on w = (handOver outlet options code).on w₁)
    (houtput : options.output = output)
    (hdeliver : (deliver (.inMemory outlet) code output).on w₁ = (.error failure, w₂)) :
    ∃ stderr, status = 1 ∧ w' = { w₂ with stderr } := by
  rw [handOver, houtput, Stage.on_bind_of_error hdeliver] at h
  exact eq_of_runOptions_error hrun h

theorem ends_of_runOptions (h : (runOptions (.inMemory outlet) options).run w = (status, w')) :
    Ends outlet w options status w' := by
  obtain ⟨stderr, hon⟩ := exists_on_compileFiles outlet options w
  cases hcode : codeOf w.tree options with
  | error failure =>
      rw [hcode] at hon
      obtain ⟨stderr', rfl, rfl⟩ := eq_of_runOptions_error h hon
      exact .refused hcode
  | ok code =>
      rw [hcode] at hon
      cases houtput : options.output with
      | none =>
          cases hprint : outlet (.ofText code) with
          | none =>
              obtain ⟨stderr', rfl, rfl⟩ :=
                eq_of_delivered h hon houtput (on_deliver_of_printed hprint)
              exact .printed hcode houtput hprint
          | some cut =>
              obtain ⟨stderr', rfl, rfl⟩ :=
                eq_of_undelivered h hon houtput (on_deliver_of_unprinted hprint)
              exact .unprinted hcode houtput hprint
      | some path =>
          rcases hparent : (Files.ofTree.makeParent (.parse path)).run w.tree with
            ⟨cause | ⟨⟩, t⟩
          · obtain ⟨stderr', rfl, rfl⟩ :=
              eq_of_undelivered h hon houtput (on_deliver_of_stuck hparent)
            exact .stuck hcode houtput hparent
          · cases hwrite : t.writeBytes (.parse path) (.ofText code) with
            | error cause =>
                obtain ⟨stderr', rfl, rfl⟩ :=
                  eq_of_undelivered h hon houtput (on_deliver_of_unwritten hparent hwrite)
                exact .unwritten hcode houtput hparent hwrite
            | ok t' =>
                obtain ⟨stderr', rfl, rfl⟩ :=
                  eq_of_delivered h hon houtput (on_deliver_of_written hparent hwrite)
                exact .written hcode houtput hparent hwrite

theorem ends_of_run (hoptions : Options.parse arguments = .ok options)
    (hrun : (run (.inMemory outlet) arguments).run w = (status, w')) :
    Ends outlet w options status w' := by
  rw [run, hoptions] at hrun
  exact ends_of_runOptions hrun

theorem exists_options_of_failed
    (hrun : (run (.inMemory outlet) arguments).run w = (status, w')) (hstatus : status = 1) :
    ∃ options, Options.parse arguments = .ok options := by
  rw [run] at hrun
  split at hrun
  · next options hoptions => exact ⟨options, hoptions⟩
  all_goals
    cases hrun
    cases hstatus

theorem Ends.of_failed (h : Ends outlet w options status w') (hstatus : status = 1) :
    (w'.stdout = w.stdout ∨ options.output = none ∧ ∃ code count cause,
      codeOf w.tree options = .ok code ∧ outlet (.ofText code) = some (count, cause) ∧
      w'.stdout = w.stdout ++ (Bytes.ofText code).take count) ∧
    (w'.tree = w.tree ∨ ∃ path code, options.output = some path ∧
      codeOf w.tree options = .ok code ∧ w'.tree = w.tree.withParent (.parse path)) := by
  cases h with
  | refused hcode => exact ⟨.inl rfl, .inl rfl⟩
  | unprinted hcode houtput hprint =>
      exact ⟨.inr ⟨houtput, _, _, _, hcode, hprint, rfl⟩, .inl rfl⟩
  | stuck hcode houtput hparent =>
      refine ⟨.inl rfl, .inr ⟨_, _, houtput, hcode, ?_⟩⟩
      rw [FileTree.withParent, hparent]
  | unwritten hcode houtput hparent hwrite =>
      refine ⟨.inl rfl, .inr ⟨_, _, houtput, hcode, ?_⟩⟩
      rw [FileTree.withParent, hparent]
  | printed hcode houtput hprint => cases hstatus
  | written hcode houtput hparent hwrite => cases hstatus

theorem Ends.of_outlet {count : Nat} (h : Ends outlet w options status w')
    (houtput : options.output = none) (hcode : codeOf w.tree options = .ok code)
    (hprint : outlet (.ofText code) = some (count, cause)) :
    status = 1 ∧ w'.tree = w.tree ∧
      w'.stdout = w.stdout ++ (Bytes.ofText code).take count := by
  cases h with
  | refused hcode' =>
      rw [hcode] at hcode'
      cases hcode'
  | printed hcode' _ hprint' =>
      cases hcode.symm.trans hcode'
      rw [hprint] at hprint'
      cases hprint'
  | unprinted hcode' _ hprint' =>
      cases hcode.symm.trans hcode'
      cases hprint.symm.trans hprint'
      exact ⟨rfl, rfl, rfl⟩
  | stuck _ houtput' | unwritten _ houtput' | written _ houtput' =>
      rw [houtput] at houtput'
      cases houtput'

theorem Ends.of_endsInSlash (h : Ends outlet w options status w')
    (houtput : options.output = some path) (hcode : codeOf w.tree options = .ok code)
    (hpath : (Path.parse path).endsInSlash = true) :
    status = 1 ∧ w'.tree = w.tree.withParent (.parse path) ∧ w'.stdout = w.stdout := by
  cases h with
  | refused hcode' =>
      rw [hcode] at hcode'
      cases hcode'
  | printed _ houtput' | unprinted _ houtput' =>
      rw [houtput] at houtput'
      cases houtput'
  | stuck _ houtput' hparent =>
      rw [houtput, Option.some.injEq] at houtput'
      rw [FileTree.withParent, houtput', hparent]
      exact ⟨rfl, rfl, rfl⟩
  | unwritten _ houtput' hparent hwrite =>
      rw [houtput, Option.some.injEq] at houtput'
      rw [FileTree.withParent, houtput', hparent]
      exact ⟨rfl, rfl, rfl⟩
  | @written code _ _ made _ _ houtput' hparent hwrite =>
      rw [houtput, Option.some.injEq] at houtput'
      obtain ⟨cause, hrefused⟩ := made.exists_error_of_endsInSlash (.ofText code) hpath
      rw [houtput', hwrite] at hrefused
      cases hrefused

/-- In a run that fails, nothing in the tree is lost or changed. What is new can only be
directories above an output file that could not be written. Nothing is printed unless the code
was to be printed and the standard output failed: then a part of it may be out, and nothing in
the tree is new. Such a run fails always, and so does every run that gets as far as to the code
if the output ends in a slash, where the directories above it are made. -/
theorem failed_run_adds_only_directories
    (hrun : (run (.inMemory outlet) arguments).run { tree := t } = (status, w)) :
    (status = 1 → t.Gains w.tree ∧
      (w.tree ≠ t → ∃ options path code, Options.parse arguments = .ok options ∧
        options.output = some path ∧ codeOf t options = .ok code ∧
        t.isDirectory (Path.parse path).parent = false ∧
        w.tree = t.withParent (.parse path)) ∧
      (w.stdout ≠ [] → w.tree = t ∧ ∃ options code count cause,
        Options.parse arguments = .ok options ∧ options.output = none ∧
        codeOf t options = .ok code ∧ outlet (.ofText code) = some (count, cause) ∧
        w.stdout = (Bytes.ofText code).take count)) ∧
    (∀ options code count cause, Options.parse arguments = .ok options →
      options.output = none → codeOf t options = .ok code →
      outlet (.ofText code) = some (count, cause) →
        status = 1 ∧ w.tree = t ∧ w.stdout = (Bytes.ofText code).take count) ∧
    ∀ options path code, Options.parse arguments = .ok options →
      options.output = some path → codeOf t options = .ok code →
      (Path.parse path).endsInSlash = true →
        status = 1 ∧ w.tree = t.withParent (.parse path) ∧ w.stdout = [] := by
  refine ⟨fun hstatus => ?_, fun options code count cause hoptions houtput hcode hprint =>
    (ends_of_run hoptions hrun).of_outlet houtput hcode hprint,
    fun options path code hoptions houtput hcode hpath =>
      (ends_of_run hoptions hrun).of_endsInSlash houtput hcode hpath⟩
  obtain ⟨options, hoptions⟩ := exists_options_of_failed hrun hstatus
  obtain ⟨hstdout, htree⟩ := (ends_of_run hoptions hrun).of_failed hstatus
  refine ⟨?_, fun hne => ?_, fun hne => ?_⟩
  · rcases htree with htree | ⟨path, code, -, -, htree⟩
    · rw [htree]
      exact .refl t
    · rw [htree]
      exact t.gains_withParent _
  · obtain htree | ⟨path, code, houtput, hcode, htree⟩ := htree
    · exact absurd htree hne
    · refine ⟨options, path, code, hoptions, houtput, hcode, ?_, htree⟩
      rw [← Bool.not_eq_true]
      exact fun hdirectory =>
        hne (htree.trans (FileTree.withParent_of_isDirectory hdirectory))
  · obtain hstdout | ⟨houtput, code, count, cause, hcode, hprint, hstdout⟩ := hstdout
    · exact absurd hstdout hne
    · refine ⟨?_, options, code, count, cause, hoptions, houtput, hcode, hprint, hstdout⟩
      obtain htree | ⟨path, _, houtput', -⟩ := htree
      · exact htree
      · rw [houtput] at houtput'
        cases houtput'

end Runs

/-- In the first run `new/out/` cannot be written, and in the second the standard output breaks
off. -/
theorem failed_run_adds_only_directories_above :
    let t : FileTree := { root := .directory [("a", .file (.ofText "1, 2"))] }
    let outlet : Outlet := fun _ => some (2, .other "Broken pipe (os error 32)")
    let written :=
      (run (.inMemory outlet) ["-m", "expression", "a", "-o", "new/out/"]).run { tree := t }
    let printed := (run (.inMemory outlet) ["-m", "expression", "a"]).run { tree := t }
    (written.1 = 1 ∧ t.Gains written.2.tree ∧
      written.2.tree = t.withParent (.parse "new/out/") ∧ written.2.stdout = []) ∧
    printed.1 = 1 ∧ printed.2.tree = t ∧ printed.2.stdout = .ofText "[1" := by
  intro t outlet written printed
  have hwritten : (run (.inMemory outlet) ["-m", "expression", "a", "-o", "new/out/"]).run
      { tree := t } = (written.1, written.2) := rfl
  have hprinted : (run (.inMemory outlet) ["-m", "expression", "a"]).run { tree := t } =
      (printed.1, printed.2) := rfl
  obtain ⟨hfailed, -, hslash⟩ := failed_run_adds_only_directories hwritten
  obtain ⟨-, hbroken, -⟩ := failed_run_adds_only_directories hprinted
  have hcode : codeOf t { input := "a", output := some "new/out/", mode := .expression } =
      .ok "[1,2]" := by decide +kernel
  have hcode' : codeOf t { input := "a", mode := .expression } = .ok "[1,2]" := by
    decide +kernel
  obtain ⟨hstatus, htree, hstdout⟩ := hslash _ _ _ rfl rfl hcode rfl
  obtain ⟨hgains, -⟩ := hfailed hstatus
  exact ⟨⟨hstatus, hgains, htree, hstdout⟩, hbroken _ _ _ _ rfl rfl hcode' rfl⟩

/-- The directory `new` is made, and then the code cannot be written to `new/out/`. -/
theorem failed_run_leaves_directory :
    let t : FileTree := { root := .directory [("a", .file (.ofText "1"))] }
    let ended := (run (.inMemory fun _ => none)
      ["-m", "expression", "a", "-o", "new/out/"]).run { tree := t }
    ended.1 = 1 ∧ t.entryAt? ["new"] = none ∧
      ended.2.tree.entryAt? ["new"] = some .directory := by
  decide +kernel

end KeywordLang.Command
