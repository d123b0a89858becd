/-
  NumberRegistry.Database.Session — a server over time, and the pools opened on it.

  Each pool that was opened stays to be used, closed or not, beside the ones that are
  opened after it. How the server behaves may change from step to step; what is in its
  tables changes only by the statements it executes.
-/
import NumberRegistry.Database.Connect
import NumberRegistry.Store.Operation

namespace NumberRegistry.Database

/-- The server as it is, behaving as another does from now on. -/
def Server.behave (s : Server) (like : Server) : Server :=
  { like with rows := s.rows, nextSerial := s.nextSerial, migrations := s.migrations, log := s.log }

structure Session where
  server : Server
  /-- The pools in the order they were opened. -/
  pools : List Pool := []

namespace Session

inductive Step where
  | connect (now : Instant) (dsn : String) (limits : Settings.PoolLimits)
  | migrate (pool : Nat)
  | call (pool : Nat) (operation : Store.Operation)
  | close (pool : Nat)
  /-- The server behaves as this one does from now on. -/
  | behave (like : Server)

inductive Answer where
  | connected (result : Except StartupError Unit)
  /-- The clock cannot express until when to wait for a connection. -/
  | clockOverflow
  | migrated (result : Except StartupError Unit)
  | called (answer : Store.Answer RowId)
  | done
  /-- There is no pool at that place. -/
  | noPool

/-- Does something with the pool at a place. -/
def withPool (s : Session) (i : Nat) (go : Database → Answer × Database) : Answer × Session :=
  match s.pools[i]? with
  | none => (.noPool, s)
  | some pool =>
    let (answer, d) := go ⟨pool, s.server⟩
    (answer, ⟨d.server, s.pools.set i d.pool⟩)

def step (s : Session) : Step → Answer × Session
  | .connect now dsn limits =>
    match (Database.connect now dsn limits s.server).1 with
    | .opened d => (.connected (.ok ()), ⟨d.server, s.pools ++ [d.pool]⟩)
    | .failed reason server => (.connected (.error reason), { s with server })
    | .clockOverflow server => (.clockOverflow, { s with server })
  | .migrate i => s.withPool i fun d =>
    let (result, d) := d.migrate
    (.migrated result, d)
  | .call i operation => s.withPool i fun d =>
    let (answer, d) := Store.perform d operation
    (.called answer, d)
  | .close i => s.withPool i fun d => (.done, d.close)
  | .behave like => (.done, { s with server := s.server.behave like })

def run (s : Session) (steps : List Step) : Session := steps.foldl (fun s t => (s.step t).2) s

end Session

end NumberRegistry.Database
