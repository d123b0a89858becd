/-
  NumberRegistry.Proofs.Database.Growth — the table of numbers only grows.

  `Server.Grown` says of two states of a server that one comes from the other by adding
  rows at the end, one for each INSERT in the log between them. It is shown of every
  statement, then of the calls that are made of statements, of opening a pool, of a run of
  migrations however it ends, and last of each step of a session. Nothing is assumed of the
  server: it may refuse or lose any statement, before or after it was executed.
-/
import NumberRegistry.Database.Session

namespace NumberRegistry.Database

/-! ## What a server has inserted -/

/-- The number that an event put into the table, if it did. -/
def Event.inserted? : Event → Option Int32
  | .inserted value => some value
  | _ => none

namespace Server

/-- From one state of a server to a later one its table has grown by these numbers: each
    has a row behind those that were there, and was inserted by a statement in the log. -/
def Grown (values : List Int32) (s s' : Server) : Prop :=
  ∃ added events, s'.rows = s.rows ++ added ∧ s'.log = s.log ++ events ∧
    added.map (·.value) = values ∧ events.filterMap Event.inserted? = values

variable {s s' s'' : Server} {values values' : List Int32}

theorem grown_of_eq (hr : s'.rows = s.rows) (hl : s'.log = s.log) : Grown [] s s' :=
  ⟨[], [], by simp [hr], by simp [hl], rfl, rfl⟩

theorem grown_note {event : Event} (h : event.inserted? = none) : Grown [] s (s.note event) :=
  ⟨[], [event], by simp [note], rfl, rfl, by simp [h]⟩

theorem Grown.trans (h : Grown values s s') (h' : Grown values' s' s'') : Grown (values ++ values') s s'' := by
  obtain ⟨added, events, hr, hl, ha, he⟩ := h
  obtain ⟨added', events', hr', hl', ha', he'⟩ := h'
  refine ⟨added ++ added', events ++ events', ?_, ?_, ?_, ?_⟩
  · rw [hr', hr, List.append_assoc]
  · rw [hl', hl, List.append_assoc]
  · rw [List.map_append, ha, ha']
  · rw [List.filterMap_append, he, he']

theorem grown_takeFault (statement : Statement) : Grown [] s (s.takeFault statement).2 := grown_of_eq rfl rfl

/-! ## Statements -/

/-- The fault that a statement would meet now. -/
def fault (s : Server) (statement : Statement) : Option Fault := (s.takeFault statement).1

/-- A sent statement, by the fault that it meets. -/
theorem run_send {α : Type} (statement : Statement) (execute : Server → α × Server) (s : Server) :
    (send statement execute).run.run s =
      let s' := (s.takeFault statement).2
      match s.fault statement with
      | some (.refuse reason) => (.error reason.error, s')
      | some (.hangUp false) => (.error hungUp, s')
      | some (.hangUp true) => (.error hungUp, (execute s').2)
      | none => (.ok (execute s').1, (execute s').2) := by
  cases hf : (s.takeFault statement).1 with
  | none => simp [fault, send, ExceptT.run, ExceptT.mk, StateT.run, hf]
  | some met => cases met with
    | refuse reason => simp [fault, send, ExceptT.run, ExceptT.mk, StateT.run, hf]
    | hangUp executed => cases executed <;> simp [fault, send, ExceptT.run, ExceptT.mk, StateT.run, hf]

/-- A statement is executed or it is not; it has an answer only if it was. -/
theorem send_cases {α : Type} (statement : Statement) (execute : Server → α × Server) (s : Server) :
    let sent := (send statement execute).run.run s
    let before := (s.takeFault statement).2
    (sent.2 = before ∧ ∃ e, sent.1 = .error e) ∨
      (sent.2 = (execute before).2 ∧ ((∃ e, sent.1 = .error e) ∨ sent.1 = .ok (execute before).1)) := by
  intro sent before
  rw [show sent = _ from run_send statement execute s]
  cases s.fault statement with
  | none => exact Or.inr ⟨rfl, Or.inr rfl⟩
  | some met => cases met with
    | refuse reason => exact Or.inl ⟨rfl, _, rfl⟩
    | hangUp executed => cases executed with
      | false => exact Or.inl ⟨rfl, _, rfl⟩
      | true => exact Or.inr ⟨rfl, Or.inl ⟨_, rfl⟩⟩

theorem executeInsert_grown (value : Int32) : Grown [value] s (executeInsert value s).2 :=
  ⟨[⟨.ofSerial s.nextSerial, value⟩], [.inserted value], rfl, rfl, rfl, rfl⟩

/-- An insert is executed once or not at all, and once if it has an answer. -/
theorem insert_grown (value : Int32) (s : Server) :
    let sent := (insert value).run.run s
    ∃ values, Grown values s sent.2 ∧ (values = [] ∨ values = [value]) ∧ (sent.1.isOk → values = [value]) := by
  intro sent
  obtain ⟨hs, e, he⟩ | ⟨hs, -⟩ := send_cases .insert (executeInsert value) s
  · exact ⟨[], hs ▸ grown_takeFault _, Or.inl rfl, fun h => by rw [show sent.1 = _ from he] at h; cases h⟩
  · exact ⟨[value], hs ▸ (grown_takeFault _).trans (executeInsert_grown value), Or.inr rfl, fun _ => rfl⟩

/-! ## Calls that insert nothing -/

end Server

/-- A call that leaves the table as it is, and the log without an insert. -/
def Quiet {ε α : Type} (call : Call ε α) : Prop := ∀ s, Server.Grown [] s (call.run.run s).2

section

variable {ε δ α β : Type}

theorem quiet_pure (a : α) : Quiet (pure a : Call ε α) := fun _ => Server.grown_of_eq rfl rfl

theorem quiet_throw (e : ε) : Quiet (throw e : Call ε α) := fun _ => Server.grown_of_eq rfl rfl

theorem run_bind (call : Call ε α) (next : α → Call ε β) (s : Server) :
    (call >>= next).run.run s = match call.run.run s with
      | (.ok a, s') => (next a).run.run s'
      | (.error e, s') => (.error e, s') := by
  rw [ExceptT.run_bind, StateT.run_bind]
  rcases call.run.run s with ⟨_ | a, s'⟩ <;> rfl

theorem Quiet.bind {call : Call ε α} {next : α → Call ε β} (h : Quiet call) (hn : ∀ a, Quiet (next a)) :
    Quiet (call >>= next) := by
  intro s
  have hs := h s
  rw [run_bind]
  split
  · rename_i a s' hcall
    rw [hcall] at hs
    exact hs.trans (hn a s')
  · rename_i e s' hcall
    rw [hcall] at hs
    exact hs

theorem Quiet.adapt {call : Call ε α} (h : Quiet call) (f : ε → δ) : Quiet (call.adapt f) := by
  intro s
  exact h s

theorem quiet_send {execute : Server → α × Server} (h : ∀ s, Server.Grown [] s (execute s).2)
    (statement : Statement) : Quiet (Server.send statement execute) := by
  intro s
  obtain ⟨hs, -⟩ | ⟨hs, -⟩ := Server.send_cases statement execute s <;> rw [hs]
  · exact Server.grown_takeFault statement
  · exact (Server.grown_takeFault statement).trans (h _)

end

theorem quiet_tell (statement : Statement) : Quiet (Server.tell statement) :=
  quiet_send (fun _ => Server.grown_note rfl) statement

theorem quiet_list : Quiet Server.list := quiet_send (fun _ => Server.grown_note rfl) .list

theorem quiet_dirtyVersion : Quiet Server.dirtyVersion := quiet_send (fun _ => Server.grown_note rfl) _

theorem quiet_appliedMigrations : Quiet Server.appliedMigrations :=
  quiet_send (fun _ => Server.grown_note rfl) _

theorem quiet_recordMigration (m : AppliedMigration) : Quiet (Server.recordMigration m) :=
  quiet_send (fun _ => Server.grown_note rfl) _

/-! ## Migrations -/

/-- A command of a script that leaves the rows of a table that is there already. -/
def Script.Command.Keeps : Script.Command → Prop
  | .remove => False
  | _ => True

instance : DecidablePred Script.Command.Keeps
  | .remove => isFalse id
  | .create _ _ => isTrue trivial
  | .unknown _ => isTrue trivial

theorem Server.executeCommands_grown {commands : List Script.Command} (h : ∀ c ∈ commands, c.Keeps) (s : Server) :
    Grown [] s (s.executeCommands commands).2 := by
  induction commands with
  | nil => exact grown_of_eq rfl rfl
  | cons command rest ih =>
    have hrest := ih fun c hc => h c (List.mem_cons_of_mem _ hc)
    cases command with
    | create name ifAbsent =>
      cases ifAbsent with
      | true => exact hrest
      | false => exact grown_of_eq rfl rfl
    | remove => exact (h .remove List.mem_cons_self).elim
    | unknown word => exact grown_of_eq rfl rfl

namespace Migration

/-- The script of a migration takes no rows away. -/
def Keeps (m : Migration) : Prop := ∀ c ∈ Script.commands m.script, c.Keeps

theorem commands_createNumbers :
    Script.commands createNumbers.script = [.create "numbers" true, .create "idx_numbers_number" true] := by
  unfold Script.commands createNumbers
  -- The kernel is slow at the characters of a string.
  simp only [String.toList_intercalate, List.map_cons, List.map_nil, String.reduceToList]
  decide +kernel

theorem keeps_all : ∀ m ∈ all, m.Keeps := by
  intro m hm c hc
  rw [List.mem_singleton.mp hm, commands_createNumbers] at hc
  revert c
  decide

theorem quiet_runScript {m : Migration} (h : m.Keeps) : Quiet (Server.runScript m.script) := by
  refine Quiet.bind (quiet_send (fun s => ?_) _) fun result => ?_
  · exact (Server.grown_note rfl).trans (Server.executeCommands_grown h _)
  · cases result with
    | ok a => exact quiet_pure a
    | error e => exact quiet_throw e

theorem quiet_executing {α : Type} {call : Call Error α} (h : Quiet call) : Quiet (executing call) := h.adapt _

theorem quiet_apply {m : Migration} (h : m.Keeps) : Quiet m.apply :=
  (quiet_executing (quiet_tell .begin)).bind fun _ =>
    ((quiet_runScript h).adapt _).bind fun _ =>
    (quiet_executing (quiet_recordMigration _)).bind fun _ =>
    (quiet_executing (quiet_tell .commit)).bind fun _ =>
    quiet_executing (quiet_tell .recordTime)

theorem quiet_bring (applied : List AppliedMigration) {m : Migration} (h : m.Keeps) : Quiet (m.bring applied) := by
  unfold bring
  split
  · split
    · exact quiet_pure ()
    · exact quiet_throw _
  · exact quiet_apply h

theorem quiet_bringAll (applied : List AppliedMigration) {migrations : List Migration}
    (h : ∀ m ∈ migrations, m.Keeps) : Quiet (bringAll applied migrations) := by
  induction migrations with
  | nil => exact quiet_pure ()
  | cons m ms ih =>
    exact (quiet_bring applied (h m List.mem_cons_self)).bind fun _ =>
      ih fun n hn => h n (List.mem_cons_of_mem _ hn)

theorem quiet_refuse (error : Int → MigrationError) (version : Option Int) : Quiet (refuse error version) := by
  cases version with
  | none => exact quiet_pure ()
  | some version => exact quiet_throw _

/-- Whether it ends well or not, a run of migrations inserts nothing and takes nothing away. -/
theorem quiet_run {migrations : List Migration} (h : ∀ m ∈ migrations, m.Keeps) : Quiet (run migrations) :=
  (quiet_executing (quiet_tell .currentDatabase)).bind fun _ =>
    (quiet_executing (quiet_tell .lock)).bind fun _ =>
    (quiet_executing (quiet_tell .createMigrationsTable)).bind fun _ =>
    (quiet_executing quiet_dirtyVersion).bind fun dirty =>
    (quiet_refuse .dirty dirty).bind fun _ =>
    (quiet_executing quiet_appliedMigrations).bind fun applied =>
    (quiet_refuse .versionMissing (missing? migrations applied)).bind fun _ =>
    (quiet_bringAll applied h).bind fun _ =>
    quiet_executing (quiet_tell .unlock)

end Migration

/-! ## Pools -/

theorem login_grown (s : Server) (options : ConnectOptions) : s.Grown [] (s.login options).2 := by
  unfold Server.login
  split
  · exact Server.grown_of_eq rfl rfl
  · split
    · exact Server.grown_of_eq rfl rfl
    · simp only
      split <;> exact Server.grown_note rfl

theorem openOne_grown (d : Database) : d.server.Grown [] d.openOne.2.server := by
  have h := login_grown d.server d.pool.options
  unfold openOne
  split
  · rename_i hl; rw [hl] at h; exact h
  · rename_i hl; rw [hl] at h; exact h

theorem acquire_grown (d : Database) : d.server.Grown [] d.acquire.2.server := by
  unfold Database.acquire
  split
  · exact Server.grown_of_eq rfl rfl
  · split
    · exact Server.grown_of_eq rfl rfl
    · split
      · exact Server.grown_of_eq rfl rfl
      · exact openOne_grown d

theorem fill_grown (count : Nat) (d : Database) : d.server.Grown [] (d.fill count).2.server := by
  induction count generalizing d with
  | zero => exact Server.grown_of_eq rfl rfl
  | succ count ih =>
    have h := openOne_grown d
    unfold fill
    split
    · exact Server.grown_of_eq rfl rfl
    · split
      · rename_i ho; rw [ho] at h; exact h.trans (ih _)
      · rename_i ho; rw [ho] at h; exact h

theorem use_unconnected {ε α : Type} {d : Database} (lift : Error → ε) (isLoss : ε → Bool) (call : Call ε α) {e : Error}
    (h : d.acquire.1 = .error e) :
    (d.use lift isLoss call).1 = .error (lift e) ∧ (d.use lift isLoss call).2.server = d.acquire.2.server := by
  have ha : d.acquire = (.error e, d.acquire.2) := by rw [← h]
  unfold use
  rw [ha]
  exact ⟨rfl, rfl⟩

theorem use_connected {ε α : Type} {d : Database} (lift : Error → ε) (isLoss : ε → Bool) (call : Call ε α) (h : d.acquire.1 = .ok ()) :
    (d.use lift isLoss call).1 = (call.run.run d.acquire.2.server).1 ∧
      (d.use lift isLoss call).2.server = (call.run.run d.acquire.2.server).2 := by
  have ha : d.acquire = (.ok (), d.acquire.2) := by rw [← h]
  unfold use
  rw [ha]
  exact ⟨rfl, rfl⟩

/-- A call on a connection is made once, or not at all where there is no connection. -/
theorem use_cases {ε α : Type} (d : Database) (lift : Error → ε) (isLoss : ε → Bool) (call : Call ε α) :
    let used := d.use lift isLoss call
    let s := d.acquire.2.server
    (used.2.server = s ∧ ∃ e, used.1 = .error e) ∨
      (used.2.server = (call.run.run s).2 ∧ used.1 = (call.run.run s).1) := by
  intro used s
  cases h : d.acquire.1 with
  | error e =>
    obtain ⟨hresult, hserver⟩ := use_unconnected lift isLoss call h
    exact Or.inl ⟨hserver, _, hresult⟩
  | ok _ =>
    obtain ⟨hresult, hserver⟩ := use_connected lift isLoss call h
    exact Or.inr ⟨hserver, hresult⟩

theorem use_grown {ε α : Type} (d : Database) (lift : Error → ε) (isLoss : ε → Bool) {call : Call ε α}
    (h : Quiet call) : d.server.Grown [] (d.use lift isLoss call).2.server := by
  obtain ⟨hs, -⟩ | ⟨hs, -⟩ := use_cases d lift isLoss call <;> rw [hs]
  · exact acquire_grown d
  · exact (acquire_grown d).trans (h _)

/-! ## Operations -/

theorem listSorted_grown (d : Database) : d.server.Grown [] (listSorted d).2.server :=
  use_grown d _ _ quiet_list

theorem ping_grown (d : Database) : d.server.Grown [] (ping d).2.server :=
  use_grown d _ _ (quiet_tell .ping)

theorem migrate_grown (d : Database) : d.server.Grown [] (migrate d).2.server :=
  use_grown d _ _ (Migration.quiet_run Migration.keeps_all)

/-- An insert into the database is one statement: executed once or not at all, and once
    if there is a record. -/
theorem insert_grown (d : Database) (value : Int32) :
    ∃ values, d.server.Grown values (insert d value).2.server ∧ (values = [] ∨ values = [value]) ∧
      ((insert d value).1.isOk → values = [value]) := by
  have hresult : (insert d value).1 = ((d.query (Server.insert value)).1.bind firstRecord).mapError .database := rfl
  obtain ⟨hs, e, he⟩ | ⟨hs, hr⟩ := use_cases d id Error.isLoss (Server.insert value)
  · refine ⟨[], ?_, Or.inl rfl, fun h => ?_⟩
    · exact (congrArg (d.server.Grown []) hs).mpr (acquire_grown d)
    · rw [hresult, show (d.query (Server.insert value)).1 = _ from he] at h
      cases h
  · obtain ⟨values, hgrown, hvalues, hok⟩ := Server.insert_grown value d.acquire.2.server
    refine ⟨values, ?_, hvalues, fun h => hok ?_⟩
    · exact (congrArg (d.server.Grown values) hs).mpr ((acquire_grown d).trans hgrown)
    · rw [hresult, show (d.query (Server.insert value)).1 = _ from hr] at h
      cases hsent : ((Server.insert value).run.run d.acquire.2.server).1 with
      | error e => rw [hsent] at h; cases h
      | ok rows => rfl

/-- The server as opening a database leaves it. -/
def Opening.server : Opening → Server
  | .opened d => d.server
  | .failed _ s => s
  | .clockOverflow s => s

theorem establish_grown (d : Database) (limits : Settings.PoolLimits) :
    d.server.Grown [] (establish d limits).server := by
  have hfill := fill_grown limits.minConnections.toNat d
  unfold establish
  split
  · rename_i hf; rw [hf] at hfill; exact hfill
  rename_i d₁ hf
  rw [hf] at hfill
  have hacquire := hfill.trans (acquire_grown d₁)
  split
  · rename_i ha; rw [ha] at hacquire; exact hacquire
  rename_i d₂ ha
  rw [ha] at hacquire
  have hping := hacquire.trans (ping_grown d₂)
  split <;> rename_i hp <;> rw [hp] at hping <;> exact hping

theorem connect_grown (now : Instant) (dsn : String) (limits : Settings.PoolLimits) (s : Server) :
    s.Grown [] (connect now dsn limits s).1.server := by
  unfold connect
  simp only
  split
  · exact Server.grown_of_eq rfl rfl
  · split
    · exact Server.grown_of_eq rfl rfl
    · exact establish_grown _ _

/-! ## Steps of a session -/

open Store (Operation)

/-- Adding a number inserts as its insert does; the read after it inserts nothing. -/
theorem storeAndList_grown (d : Database) (value : Int32) :
    let added := Api.storeAndList value d
    ∃ values, d.server.Grown values added.2.server ∧ (values = [] ∨ values = [value]) ∧
      (added.1.isOk → values = [value]) := by
  intro added
  obtain ⟨values, hgrown, hvalues, hok⟩ := insert_grown d value
  have hlisted := hgrown.trans (listSorted_grown (insert d value).2)
  rw [List.append_nil] at hlisted
  refine ⟨values, ?_, hvalues, ?_⟩ <;>
    obtain ⟨_, hi, hadd⟩ | ⟨_, _, hi, -, hadd⟩ | ⟨_, _, hi, -, hadd⟩ := Api.storeAndList_cases d value <;>
    rw [show added = _ from hadd]
  · exact hgrown
  · exact hlisted
  · exact hlisted
  · intro h; cases h
  · intro h; cases h
  · exact fun _ => hok (by rw [show (insert d value).1 = _ from hi]; rfl)

/-- The number that an operation is to insert, if it is to insert one. -/
def inserts? : Operation → Option Int32
  | .insert value | .add value => some value
  | .list | .ping => none

/-- A call that inserts has come to a record, or to the numbers there are then. -/
def Inserted : Store.Answer RowId → Prop
  | .record result => result.isOk
  | .numbers result => result.isOk
  | _ => False

theorem perform_grown (d : Database) (operation : Operation) :
    let performed := Store.perform d operation
    ∃ values, d.server.Grown values performed.2.server ∧ (inserts? operation = none → values = []) ∧
      ∀ value, inserts? operation = some value →
        (values = [] ∨ values = [value]) ∧ (Inserted performed.1 → values = [value]) := by
  cases operation with
  | insert value =>
    obtain ⟨values, hgrown, hvalues, hok⟩ := insert_grown d value
    exact ⟨values, hgrown, by simp [inserts?], fun _ h => by cases h; exact ⟨hvalues, hok⟩⟩
  | list => exact ⟨[], listSorted_grown d, fun _ => rfl, fun _ h => by cases h⟩
  | ping => exact ⟨[], ping_grown d, fun _ => rfl, fun _ h => by cases h⟩
  | add value =>
    obtain ⟨values, hgrown, hvalues, hok⟩ := storeAndList_grown d value
    exact ⟨values, hgrown, by simp [inserts?], fun _ h => by cases h; exact ⟨hvalues, hok⟩⟩

namespace Session

def Step.inserts? : Step → Option Int32
  | .call _ operation => Database.inserts? operation
  | _ => none

def Answer.Inserted : Answer → Prop
  | .called answer => Database.Inserted answer
  | _ => False

/-- What is done with a pool is done to the server, or to nothing. -/
theorem withPool_cases (s : Session) (i : Nat) (go : Database → Answer × Database) :
    s.withPool i go = (.noPool, s) ∨
      ∃ d : Database, d.server = s.server ∧ (s.withPool i go).1 = (go d).1 ∧
        (s.withPool i go).2.server = (go d).2.server := by
  unfold withPool
  split
  · exact Or.inl rfl
  · rename_i pool _
    exact Or.inr ⟨⟨pool, s.server⟩, rfl, rfl, rfl⟩

theorem withPool_grown (s : Session) (i : Nat) {go : Database → Answer × Database}
    (h : ∀ d : Database, d.server.Grown [] (go d).2.server) : s.server.Grown [] (s.withPool i go).2.server := by
  obtain hnone | ⟨d, hd, -, hgo⟩ := s.withPool_cases i go
  · rw [hnone]; exact Server.grown_of_eq rfl rfl
  · rw [hgo, ← hd]; exact h d

/-- A step that is not to insert inserts nothing; one that is inserts its number once or
    not at all, and once if that is its answer. -/
theorem step_grown (s : Session) (t : Step) :
    ∃ values, s.server.Grown values (s.step t).2.server ∧ (t.inserts? = none → values = []) ∧
      ∀ value, t.inserts? = some value →
        (values = [] ∨ values = [value]) ∧ ((s.step t).1.Inserted → values = [value]) := by
  cases t with
  | connect now dsn limits =>
    have h := connect_grown now dsn limits s.server
    refine ⟨[], ?_, fun _ => rfl, fun _ ht => by cases ht⟩
    unfold step
    simp only
    split <;> rename_i hc <;> rw [hc] at h <;> exact h
  | migrate i => exact ⟨[], withPool_grown s i migrate_grown, fun _ => rfl, fun _ ht => by cases ht⟩
  | close i =>
    exact ⟨[], withPool_grown s i fun _ => Server.grown_of_eq rfl rfl, fun _ => rfl, fun _ ht => by cases ht⟩
  | behave like => exact ⟨[], Server.grown_of_eq rfl rfl, fun _ => rfl, fun _ ht => by cases ht⟩
  | call i operation =>
    change ∃ values, s.server.Grown values (s.withPool i _).2.server ∧ _ ∧ ∀ value, _ → _ ∧
      ((s.withPool i _).1.Inserted → _)
    obtain hnone | ⟨d, hd, hanswer, hserver⟩ := s.withPool_cases i fun d =>
      (.called (Store.perform d operation).1, (Store.perform d operation).2)
    · rw [hnone]
      exact ⟨[], Server.grown_of_eq rfl rfl, fun _ => rfl, fun _ _ => ⟨Or.inl rfl, False.elim⟩⟩
    · rw [hanswer, hserver, ← hd]
      exact perform_grown d operation

theorem run_grown (steps : List Step) (s : Session) : ∃ values, s.server.Grown values (s.run steps).server := by
  induction steps generalizing s with
  | nil => exact ⟨[], Server.grown_of_eq rfl rfl⟩
  | cons t rest ih =>
    obtain ⟨values, hstep, -⟩ := s.step_grown t
    obtain ⟨values', hrest⟩ := ih (s.step t).2
    exact ⟨values ++ values', hstep.trans hrest⟩

/-- Whatever was done before, with whatever outcome, a step leaves all rows as they are
    and adds one for each INSERT that the server executed in it: none unless the step is
    to insert a number, and then one at most, exactly one if the answer says so. -/
theorem rows_append_only (s : Session) (earlier : List Step) (t : Step) :
    let before := s.run earlier
    let after := before.step t
    s.server.rows <+: before.server.rows ∧
      ∃ added events, after.2.server.rows = before.server.rows ++ added ∧
        after.2.server.log = before.server.log ++ events ∧
        added.map (·.value) = events.filterMap Event.inserted? ∧
        (t.inserts? = none → added = []) ∧
        ∀ value, t.inserts? = some value →
          (added = [] ∨ ∃ id, added = [⟨id, value⟩]) ∧ (after.1.Inserted → ∃ id, added = [⟨id, value⟩]) := by
  intro before after
  obtain ⟨_, _, _, hearlier, -⟩ := run_grown earlier s
  obtain ⟨values, ⟨added, events, hrows, hlog, hadded, hevents⟩, hnone, hsome⟩ := before.step_grown t
  have hone : ∀ value, values = [value] → ∃ id, added = [⟨id, value⟩] := by
    rintro value rfl
    obtain ⟨row, rfl, rfl⟩ := List.map_eq_singleton_iff.mp hadded
    exact ⟨row.id, rfl⟩
  have hzero : values = [] → added = [] := by
    rintro rfl
    exact List.map_eq_nil_iff.mp hadded
  refine ⟨⟨_, hearlier.symm⟩, added, events, hrows, hlog, hadded.trans hevents.symm, fun h => hzero (hnone h), ?_⟩
  intro value hvalue
  obtain ⟨hvalues, hok⟩ := hsome value hvalue
  exact ⟨hvalues.imp hzero (hone value), fun h => hone value (hok h)⟩

end Session

end NumberRegistry.Database
