import ReceivingApp.Adapters.Migrations
import ReceivingApp.Lib.Checkpoint
import ReceivingApp.Lib.Hoare
import Mathlib.Logic.Relation

open Interaction Checkpoint

namespace ReceivingApp

variable {S : Type} {py : PyStd} {digit : Char → Bool} {dir : SchemaDir}
variable {exec : String → S → Option S} {start db db' : SchemaDb S} {m : Migration}
variable {done rest : List Migration} {names : List String} {current : Int}

def SchemaDir.IsMigration (py : PyStd) (digit : Char → Bool) (dir : SchemaDir) (m : Migration) :
    Prop :=
  m.2 ∈ dir.names ∧ migrationVersion py digit m.2 = some (.ok m.1)

-- The version numbers of the files are pairwise distinct.
def SchemaDir.Distinct (py : PyStd) (digit : Char → Bool) (dir : SchemaDir) : Prop :=
  ∀ m m', dir.IsMigration py digit m → dir.IsMigration py digit m' → m.1 = m'.1 → m = m'

def SchemaDir.script (dir : SchemaDir) (m : Migration) : Script where
  migrationSql := dir.text m.2
  version      := m.1

-- ### The list of pending migrations

-- What a file adds to the list.
def newer (py : PyStd) (digit : Char → Bool) (current : Int) (name : String) : Option Migration :=
  match migrationVersion py digit name with
  | some (.ok ver) => if current < ver then some (ver, name) else none
  | _              => none

theorem newer_eq_some_iff {name : String} :
    newer py digit current name = some m ↔
      m.2 = name ∧ migrationVersion py digit m.2 = some (.ok m.1) ∧ current < m.1 := by
  have ⟨ver, name'⟩ := m
  simp only [newer]
  split
  case h_1 v hv =>
    split
    all_goals grind
  case h_2 hv =>
    refine iff_of_false (by simp) ?_
    rintro ⟨rfl, h, -⟩
    exact hv _ h

theorem collectPending_eq_ok_iff {acc l : List Migration} :
    names.foldlM (collectPending py digit current) acc = .ok l ↔
      (∀ name ∈ names, ∀ e, migrationVersion py digit name ≠ some (.error e)) ∧
      l = acc ++ names.filterMap (newer py digit current) := by
  induction names generalizing acc
  case nil => simp [pure, Except.pure, eq_comm]
  case cons name names ih =>
    rw [List.foldlM_cons, List.forall_mem_cons, List.filterMap_cons]
    rcases hv : migrationVersion py digit name with _ | (e | ver)
    case none     => simp [collectPending, newer, hv, bind, Except.bind, ih]
    case some.error => simp [collectPending, hv, bind, Except.bind]
    case some.ok =>
      by_cases h : current < ver
      all_goals simp [collectPending, newer, hv, bind, Except.bind, h, ih]

theorem pendingMigrations_eq_ok_iff {l : List Migration} :
    pendingMigrations py digit names current = .ok l ↔
      (∀ name ∈ names, ∀ e, migrationVersion py digit name ≠ some (.error e)) ∧
      l = (names.filterMap (newer py digit current)).insertionSort
        (fun a b => (toLex a : ℤ ×ₗ String) ≤ toLex b) := by
  unfold pendingMigrations
  constructor
  case mp =>
    intro h
    cases hc : names.foldlM (collectPending py digit current) []
    case error => simp [hc, bind, Except.bind] at h
    case ok l' =>
      have ⟨hr, hl⟩ := collectPending_eq_ok_iff.mp hc
      subst hl
      simp only [hc, bind, Except.bind, pure, Except.pure] at h
      exact ⟨hr, (Except.ok.inj h).symm⟩
  case mpr =>
    rintro ⟨hr, rfl⟩
    rw [collectPending_eq_ok_iff.mpr ⟨hr, rfl⟩]
    rfl

abbrev Pending (py : PyStd) (digit : Char → Bool) (dir : SchemaDir) (db : SchemaDb S) :
    Migration → Prop :=
  Ahead Prod.fst (dir.IsMigration py digit) SchemaDb.userVersion db

-- The list holds the migrations above the version in ascending order, whatever order the files are
-- found in.
theorem lists_of_pendingMigrations (hd : dir.Distinct py digit) (hp : names.Perm dir.names)
    {l : List Migration} (h : pendingMigrations py digit names db.userVersion = .ok l) :
    Lists Prod.fst (Pending py digit dir db) l := by
  have ⟨_, hl⟩ := pendingMigrations_eq_ok_iff.mp h
  have hmem (m : Migration) : m ∈ l ↔ Pending py digit dir db m := by
    rw [hl, List.mem_insertionSort, List.mem_filterMap]
    constructor
    case mp =>
      rintro ⟨name, hn, hm⟩
      obtain ⟨rfl, hv, hlt⟩ := newer_eq_some_iff.mp hm
      exact ⟨⟨hp.subset hn, hv⟩, hlt⟩
    case mpr =>
      rintro ⟨⟨hn, hv⟩, hlt⟩
      exact ⟨m.2, hp.symm.subset hn, newer_eq_some_iff.mpr ⟨rfl, hv, hlt⟩⟩
  have hnodup : l.Nodup := by
    rw [hl, (List.perm_insertionSort _ _).nodup_iff]
    refine (hp.nodup_iff.mpr dir.nodup).filterMap fun name name' m hm hm' => ?_
    exact (newer_eq_some_iff.mp hm).1.symm.trans (newer_eq_some_iff.mp hm').1
  have hsorted : l.Pairwise (fun a b => (toLex a : ℤ ×ₗ String) ≤ toLex b) := by
    rw [hl]
    exact List.pairwise_insertionSort _ _
  refine ⟨(hsorted.and hnodup).imp_of_mem fun {a b} ha hb hab => ?_, hmem⟩
  refine lt_of_le_of_ne (Prod.Lex.monotone_fst _ _ hab.1) fun he => hab.2 ?_
  exact hd a b ((hmem a).mp ha).1 ((hmem b).mp hb).1 he

-- ### Runs

-- What has been applied since the beginning, in order.
abbrev Applied (py : PyStd) (digit : Char → Bool) (dir : SchemaDir) (exec : String → S → Option S) :
    SchemaDb S → SchemaDb S → List Migration → Prop :=
  Progress Prod.fst (dir.IsMigration py digit) SchemaDb.userVersion
    (fun m => SchemaDb.commit exec (dir.script m))

namespace SchemaDb

theorem commit_eq_some_iff {script : Script} :
    db.commit exec script = some db' ↔
      ∃ schema, exec script.migrationSql db.schema = some schema ∧
        db' = ⟨schema, script.version, db.committed ++ [script]⟩ := by
  simp [commit, eq_comm]

theorem userVersion_commit (m : Migration) (db db' : SchemaDb S)
    (h : db.commit exec (dir.script m) = some db') : db'.userVersion = m.1 := by
  obtain ⟨_, _, rfl⟩ := commit_eq_some_iff.mp h
  rfl

end SchemaDb

section Runs

variable {I : SchemaDb S → Prop}

-- A call that raises without an effect leaves the invariant as it is.
theorem wp_perform {β : Type} {op : MigrationCall β} {Q : β → SchemaDb S → Prop} (h : I db)
    (hok : ∀ b db', dir.Answers exec β op db (.ok b) db' → I db' ∧ Q b db')
    (herr : ∀ e db', dir.Answers exec β op db (.error e) db' → I db') :
    (Program.perform op).wp (dir.env exec) I Q (fun _ _ => True) db := by
  apply Program.wp.perform h
  case hok =>
    rintro b db' (ha | ⟨⟨_, he⟩, _⟩)
    · exact hok b db' ha
    · cases he
  case herr =>
    rintro e db' (ha | ⟨_, rfl⟩)
    · exact ⟨herr e db' ha, trivial⟩
    · exact ⟨h, trivial⟩

-- A turn of the loop leaves the migration applied or not applied, and is over only if it is.
theorem wp_applyMigration {Q : Unit → SchemaDb S → Prop} (h : I db)
    (hc : ∀ db', db.commit exec (dir.script m) = some db' → I db' ∧ Q () db') :
    (applyMigration m).wp (dir.env exec) I Q (fun _ _ => True) db := by
  apply Program.wp.bind
  apply wp_perform h
  case hok =>
    rintro sql db₁ ⟨hr, rfl⟩
    cases hr
    exact ⟨h, wp_perform h (fun _ db₂ ha => hc db₂ ha) (fun _ db₂ ha => (hc db₂ ha).1)⟩
  case herr =>
    rintro e db₁ ⟨hr, _⟩
    cases hr

-- The loop applies what stands before it in order.
theorem wp_applyMigrations
    (h : ∃ done, Applied py digit dir exec start db done)
    {l : List Migration} (hl : Lists Prod.fst (Pending py digit dir db) l) :
    (l.foldlM (fun _ m => applyMigration m) ()).wp (dir.env exec)
      (fun db => ∃ done, Applied py digit dir exec start db done)
      (fun _ db => (∃ done, Applied py digit dir exec start db done) ∧
        ∀ m, ¬Pending py digit dir db m)
      (fun _ _ => True) db := by
  refine Program.wp.mono (Program.wp.foldlM (J := fun l _ db =>
    (∃ done, Applied py digit dir exec start db done) ∧ Lists Prod.fst (Pending py digit dir db) l)
    (fun m l _ db h => ?_) ⟨h, hl⟩ fun _ _ h => h.1) ?_ fun _ _ _ h => h
  case refine_1 =>
    obtain ⟨⟨done, hd⟩, hl⟩ := h
    apply wp_applyMigration ⟨done, hd⟩
    intro db' hc
    have hn := hd.step SchemaDb.userVersion_commit hl hc
    exact ⟨⟨_, hn⟩, ⟨_, hn⟩, Progress.ahead SchemaDb.userVersion_commit hl hc⟩
  case refine_2 =>
    intro _ db _ ⟨hd, hl⟩
    exact ⟨hd, fun m hm => List.not_mem_nil ((hl.mem_iff m).mpr hm)⟩

-- A run from any state reached applies what is left, in order, and is done only if nothing is.
theorem wp_ensureSchema (hd : dir.Distinct py digit)
    (h : ∃ done, Applied py digit dir exec start db done) :
    (ensureSchema py digit).wp (dir.env exec)
      (fun db => ∃ done, Applied py digit dir exec start db done)
      (fun _ db => (∃ done, Applied py digit dir exec start db done) ∧
        (∀ m, ¬Pending py digit dir db m) ∧
        ∀ name ∈ dir.names, ∀ e, migrationVersion py digit name ≠ some (.error e))
      (fun _ _ => True) db := by
  apply Program.wp.tryCatch
  refine Program.wp.mono (X := fun _ _ => True) ?_ (fun _ _ _ h => h) ?_
  case refine_2 =>
    intro e db h _
    cases e
    all_goals exact ⟨h, trivial⟩
  apply Program.wp.bind
  apply wp_perform h
  case herr =>
    rintro e _ ⟨hr, _⟩
    cases hr
  rintro current db₁ ⟨hr, rfl⟩
  cases hr
  refine ⟨h, .bind (wp_perform h (fun names db₂ ha => ?_) fun e db₂ ha => ?_)⟩
  case refine_2 =>
    obtain ⟨_, _, hr, _⟩ := ha
    cases hr
  obtain ⟨_, hp, hr, rfl⟩ := ha
  cases hr
  refine ⟨h, .bind ?_⟩
  cases hl : pendingMigrations py digit names db₂.userVersion
  case error => exact ⟨h, trivial⟩
  case ok l =>
    refine ⟨h, (wp_applyMigrations h (lists_of_pendingMigrations hd hp hl)).mono ?_ ?_⟩
    case refine_1 =>
      intro _ db _ ⟨hd, hf⟩
      refine ⟨hd, hf, fun name hn => ?_⟩
      exact (pendingMigrations_eq_ok_iff.mp hl).1 name (hp.symm.subset hn)
    case refine_2 => exact fun _ _ _ h => h

-- What a cut run leaves behind is where the next one takes up the work.
theorem exists_applied_of_restarts (hd : dir.Distinct py digit)
    (hr : Relation.ReflTransGen (dir.Restart py digit exec) start db) :
    ∃ done, Applied py digit dir exec start db done := by
  induction hr
  case refl => exact ⟨[], .refl start⟩
  case tail hs ih =>
    have ⟨_, hs⟩ := hs
    exact (wp_ensureSchema hd ih).invariant hs

end Runs

-- ### Runs without faults

theorem env_handle {β : Type} (op : MigrationCall β) (db : SchemaDb S) :
    dir.env exec β op db (dir.handle exec β op db).1 (dir.handle exec β op db).2 := by
  cases op
  case userVersion | readText => exact .inl ⟨rfl, rfl⟩
  case globSql                => exact .inl ⟨dir.names, .refl _, rfl, rfl⟩
  case executescript script =>
    cases hc : db.commit exec script
    case none   => exact .inr (by simp [SchemaDir.handle, hc])
    case some _ => exact .inl (by simp [SchemaDir.handle, SchemaDir.Answers, hc])

theorem run_applyMigrations
    (hr : done.foldlM (fun db m => db.commit exec (dir.script m)) db = some db') :
    (done.foldlM (fun _ m => applyMigration m) ()).run (dir.handle exec) db = (.ok (), db') := by
  induction done generalizing db
  case nil =>
    cases hr
    rfl
  case cons m done ih =>
    obtain ⟨db₁, hc, hr⟩ := Option.bind_eq_some_iff.mp hr
    have hm : (applyMigration m).run (dir.handle exec) db = (.ok (), db₁) := by
      simp only [applyMigration, Program.run_bind, Program.run_perform, SchemaDir.handle]
      rw [show db.commit exec ⟨dir.text m.2, m.1⟩ = some db₁ from hc]
    rw [List.foldlM_cons, Program.run_bind_of_ok hm]
    exact ih hr

theorem run_ensureSchema
    (hl : pendingMigrations py digit dir.names db.userVersion = .ok done)
    (hr : done.foldlM (fun db m => db.commit exec (dir.script m)) db = some db') :
    (ensureSchema py digit).run (dir.handle exec) db = (.ok (), db') := by
  apply Program.run_tryCatch_of_ok
  simp only [Program.run_bind, Program.run_perform, Program.run_ofExcept, SchemaDir.handle, hl]
  exact run_applyMigrations hr

-- ### The history of a database

-- What any number of restarts has done to a database since `start`, with the migrations applied in
-- order.
structure Migrated (py : PyStd) (digit : Char → Bool) (dir : SchemaDir)
    (exec : String → S → Option S) (start db : SchemaDb S) (done : List Migration) : Prop where
  committed   : db.committed = start.committed ++ done.map dir.script
  ascending   : done.Pairwise (fun m m' => m.1 < m'.1)
  above       : ∀ m ∈ done, dir.IsMigration py digit m ∧ start.userVersion < m.1
  userVersion : db.userVersion = (done.map Prod.fst).foldl max start.userVersion
  schema      :
    done.foldlM (fun schema m => exec (dir.text m.2) schema) start.schema = some db.schema

theorem replay_committed (hr : done.foldlM (fun db m => db.commit exec (dir.script m)) db = some db') :
    db'.committed = db.committed ++ done.map dir.script ∧
    done.foldlM (fun schema m => exec (dir.text m.2) schema) db.schema = some db'.schema := by
  induction done generalizing db
  case nil =>
    cases hr
    simp
  case cons m done ih =>
    obtain ⟨db₁, hc, hr⟩ := Option.bind_eq_some_iff.mp hr
    have ⟨hm, hs⟩ := ih hr
    obtain ⟨schema, he, rfl⟩ := SchemaDb.commit_eq_some_iff.mp hc
    refine ⟨by simpa using hm, ?_⟩
    rw [List.foldlM_cons]
    exact Option.bind_eq_some_iff.mpr ⟨schema, he, hs⟩

theorem migrated_of_applied (h : Applied py digit dir exec start db done) :
    Migrated py digit dir exec start db done where
  committed   := (replay_committed h.replay).1
  ascending   := h.lists.ascending
  above m hm  := ⟨((h.lists.mem_iff m).mp hm).1, ((h.lists.mem_iff m).mp hm).2.1⟩
  userVersion := h.mark_eq SchemaDb.userVersion_commit
  schema      := (replay_committed h.replay).2

-- However often the migrations are interrupted, each is applied at most once and in order, and who
-- completes them gets to where one run without an interruption gets.
theorem migrates (hd : dir.Distinct py digit)
    (hr : Relation.ReflTransGen (dir.Restart py digit exec) start db) :
    (∃ done, Migrated py digit dir exec start db done) ∧
    ∀ db', Program.Returns (dir.env exec) db (ensureSchema py digit) db' () →
      (ensureSchema py digit).run (dir.handle exec) start = (.ok (), db') ∧
      ∀ db'', Program.Returns (dir.env exec) start (ensureSchema py digit) db'' () → db'' = db' := by
  have ⟨done, hp⟩ := exists_applied_of_restarts hd hr
  refine ⟨⟨done, migrated_of_applied hp⟩, fun db' hr' => ?_⟩
  have ⟨⟨done', hp'⟩, hf, hn⟩ := (wp_ensureSchema hd ⟨done, hp⟩).returns hr'
  constructor
  case left =>
    refine run_ensureSchema (pendingMigrations_eq_ok_iff.mpr ⟨hn, ?_⟩) hp'.replay
    refine (hp'.lists_ahead hf).unique ?_
    exact lists_of_pendingMigrations hd (.refl _) (pendingMigrations_eq_ok_iff.mpr ⟨hn, rfl⟩)
  case right =>
    intro db'' hr''
    have ⟨⟨done'', hp''⟩, hf', _⟩ := (wp_ensureSchema hd ⟨[], .refl start⟩).returns hr''
    exact hp''.unique hp' hf' hf

-- ### A sample

def SchemaDir.sample : SchemaDir where
  names := ["0002_flag.sql", "0001_init.sql", "seed.sql"]
  text  := id
  nodup := by decide

-- SQLite that takes every script and keeps it.
def sampleExec (sql : String) (schema : List String) : Option (List String) :=
  some (schema ++ [sql])

-- The surroundings in which the second migration fails.
def sampleFailing : Program.Handler MigrationCall SchemaExc (SchemaDb (List String)) := fun
  | _, .executescript ⟨_, 2⟩, db => (.error (.sqlite "disk I/O error"), db)
  | _, op, db                    => SchemaDir.sample.handle sampleExec _ op db

theorem env_sampleFailing (β : Type) (op : MigrationCall β) (db : SchemaDb (List String)) :
    SchemaDir.sample.env sampleExec β op db (sampleFailing β op db).1 (sampleFailing β op db).2 := by
  unfold sampleFailing
  split
  case h_1 => exact .inr ⟨⟨_, rfl⟩, rfl⟩
  case h_2 => exact env_handle _ _

theorem distinct_sample : SchemaDir.sample.Distinct .ascii Char.isDigit := by
  have h : ∀ name ∈ SchemaDir.sample.names, ∀ name' ∈ SchemaDir.sample.names,
      migrationVersion .ascii Char.isDigit name = migrationVersion .ascii Char.isDigit name' →
      migrationVersion .ascii Char.isDigit name = none ∨ name = name' := by
    decide +kernel
  rintro ⟨ver, name⟩ ⟨ver', name'⟩ ⟨hn, hv⟩ ⟨hn', hv'⟩ he
  cases he
  rcases h name hn name' hn' (hv.trans hv'.symm) with hnone | rfl
  · cases hnone.symm.trans hv
  · rfl

def sampleInterrupted : SchemaDb (List String) :=
  ⟨["0001_init.sql"], 1, [⟨"0001_init.sql", 1⟩]⟩

theorem restart_sample :
    SchemaDir.sample.Restart .ascii Char.isDigit sampleExec ⟨[], 0, []⟩ sampleInterrupted := by
  have hs := Program.steps_run env_sampleFailing (ensureSchema .ascii Char.isDigit) ⟨[], 0, []⟩
  have he : ((ensureSchema .ascii Char.isDigit).run sampleFailing ⟨[], 0, []⟩).2 =
      sampleInterrupted := by
    decide +kernel
  exact ⟨_, he ▸ hs⟩

theorem migrates_sample :
    (ensureSchema .ascii Char.isDigit).run (SchemaDir.sample.handle sampleExec) ⟨[], 0, []⟩ =
      (.ok (), ⟨["0001_init.sql", "0002_flag.sql"], 2,
        [⟨"0001_init.sql", 1⟩, ⟨"0002_flag.sql", 2⟩]⟩) :=
  ((migrates distinct_sample (.single restart_sample)).2 _
    (Program.returns_of_run (fun _ => env_handle) (by decide +kernel))).1

end ReceivingApp
