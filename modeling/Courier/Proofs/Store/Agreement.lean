/-
# Courier.Proofs.Store.Agreement -- a database and the store in memory agree

The same operations are put to a database whose server executes their statements
(`Remote.step`) and to the store in memory (`Store.apply`).  The server is any that does what
`Server.Executes` says.  `Corresponds` is what keeps the two together: the server's rows are
those of the records in memory, in whichever order, and no two have one id.  Under it every
operation has the same outcome on both sides (`executed_agrees`), whichever rows a statement
is about, and `stores_agree` says so of every list of operations during which the circuit
stays closed.

Both stores have to be able to hold what an operation says (`Operation.Storable`).  Memory
holds anything; a server has a calendar and limits, and beyond them the two part
(`stores_apart_beyond_limits`).
-/
import Courier.Proofs.Store.Faults
import Courier.Proofs.Store.Records
import Courier.Proofs.Store.Table

namespace Courier.Store

set_option autoImplicit false

/-! ## What both stores can hold -/

namespace Operation

/-- The texts an operation writes or looks for. -/
def texts : Operation → List String
  | .create n => [n.id, n.recipient, n.subject, n.body] ++ n.error.toList
  | .get id => [id]
  | .setStatus id _ => [id]
  | .markSent id _ _ => [id]
  | .markFailed id error _ => [id, error]
  | .ping => []

/-- The number of retries it writes. -/
def retries? : Operation → Option UInt32
  | .create n => some n.retryCount
  | .markSent _ _ retries => some retries
  | .markFailed _ _ retries => some retries
  | _ => none

/-- The moments it writes. -/
def moments : Operation → List Timestamp
  | .create n => n.createdAt :: n.sentAt.toList
  | .markSent _ sentAt _ => [sentAt]
  | _ => []

/-- An operation with texts that can be sent, a number of retries that can be kept, moments of the
server's calendar, and no more than the server has room for. -/
structure Storable (server : Server) (o : Operation) : Prop where
  texts : ∀ s ∈ o.texts, '\x00' ∉ s.toList
  retries : ∀ n ∈ o.retries?, n.toNat < 0x80000000
  moments : ∀ t ∈ o.moments, inCalendar t.microsSince2000 = true
  room : server.admits (Query.ofOperation o).statement (Query.ofOperation o).parameters = true

theorem isSendable_iff {s : String} : isSendable s = true ↔ '\x00' ∉ s.toList := by
  simp [isSendable]

theorem Storable.ready {server : Server} {o : Operation} (storable : o.Storable server) :
    server.Ready (Query.ofOperation o).statement (Query.ofOperation o).parameters := by
  refine ⟨?_, storable.room⟩
  have status : ∀ s : Notification.Status, '\x00' ∉ s.name.toList := by
    intro s
    cases s <;> decide
  have kind : ∀ k : Notification.Kind, '\x00' ∉ k.name.toList := by
    intro k
    cases k <;> decide
  have texts := storable.texts
  have moments := storable.moments
  cases o with
  | create n =>
      obtain ⟨id, recipient, subject, body, s, k, retries, created, sentAt, error⟩ := n
      have bounds := signed_bounds retries
      cases sentAt <;> cases error <;>
        simp_all [Operation.texts, Operation.moments, Query.ofOperation, Query.parameters,
          Query.statement, Row.ofNotification, Statement.accepts, Statement.places,
          Statement.assigned, Statement.key?, Column.all, Column.takes, isSendable_iff]
  | get | setStatus | markSent | markFailed | ping =>
      simp_all [Operation.texts, Operation.moments, Query.ofOperation, Query.parameters,
        Query.statement, Statement.accepts, Statement.places, Statement.assigned,
        Statement.key?, Column.takes, isSendable_iff, signed_bounds]

end Operation

/-! ## The rows of records -/

/-- The row a server keeps for a record. -/
def tupleOf (n : Notification) : Tuple := (Row.ofNotification n).tuple

@[simp] theorem tupleOf_id (n : Notification) : tupleOf n .id = .text n.id := rfl

@[simp] theorem hasKey_tupleOf (n : Notification) (id : String) :
    (tupleOf n).hasKey .id (some (.text id)) = (n.id == id) := by
  unfold Tuple.hasKey
  rw [tupleOf_id, Bool.eq_iff_iff]
  simp

theorem filter_hasKey (records : List Notification) (id : String) :
    (records.map tupleOf).filter (fun row => row.hasKey .id (some (.text id))) =
      (records.filter (·.id == id)).map tupleOf := by
  rw [List.filter_map]
  congr 2
  funext n
  exact hasKey_tupleOf n id

/-- The rows of a table are those of the records of a store. -/
structure Corresponds (rows : List Tuple) (s : Store) : Prop where
  rows : rows.Perm (s.records.map tupleOf)
  distinct : (s.records.map (·.id)).Nodup
  small : ∀ n ∈ s.records, n.retryCount.toNat < 0x80000000

theorem corresponds_empty : Corresponds [] .empty where
  rows := .nil
  distinct := List.nodup_nil
  small := fun _ member => nomatch member

/-! ## One operation -/

/-- Two outcomes of one operation: both found records that are the same but for what is less
than a microsecond, or both miss the same id, or both are errors of the store. -/
inductive Same : Outcome → Outcome → Prop where
  | done : Same (.ok none) (.ok none)
  | found {m n : Notification} (back : ReadsBack n m) (retries : m.retryCount = n.retryCount) :
      Same (.ok (some m)) (.ok (some n))
  | missing (id : String) : Same (.error (.notFound id)) (.error (.notFound id))
  | broken (detail other : String) : Same (.error (.database detail)) (.error (.database other))

variable {server : Server}

/-- What the caller gets once the server has answered. -/
def Request.outcome (r : Request) (state : server.State) : Outcome :=
  (Database.limited (r.exchange state).answer).1.bind (Database.interpret r.operation)

/-- An operation does the same to a server's table and to a store. -/
structure Agrees (r : Request) (state : server.State) (s : Store) : Prop where
  outcome : Same (r.outcome state) (s.apply r.operation).1
  corresponds : Corresponds (server.rows (r.executed state).2) (s.apply r.operation).2
  /-- One that fails changes neither. -/
  kept : (s.apply r.operation).1.isOk = false →
    (server.rows (r.executed state).2).Perm (server.rows state) ∧ (s.apply r.operation).2 = s

variable {state : server.State} {s : Store} {r : Request} {id : String}
  {change : Notification → Notification}

/-- An operation that leaves both as they were. -/
theorem Agrees.of_unchanged {answer : Outcome} (corresponds : Corresponds (server.rows state) s)
    (applied : s.apply r.operation = (answer, s)) (same : Same (r.outcome state) answer)
    (rows : (server.rows (r.executed state).2).Perm (server.rows state)) : Agrees r state s := by
  constructor
  · rw [applied]
    exact same
  · rw [applied]
    exact ⟨rows.trans corresponds.rows, corresponds.distinct, corresponds.small⟩
  · rw [applied]
    exact fun _ => ⟨rows, rfl⟩

/-- An operation that is done on both sides. -/
theorem Agrees.of_done {after : Store} (applied : s.apply r.operation = (.ok none, after))
    (outcome : r.outcome state = .ok none)
    (corresponds : Corresponds (server.rows (r.executed state).2) after) : Agrees r state s := by
  constructor
  · rw [applied, outcome]
    exact .done
  · rw [applied]
    exact corresponds
  · rw [applied]
    intro failed
    cases failed

/-- What the caller gets when the server has refused. -/
theorem outcome_of_refused {fault : Fault} (refused : (r.executed state).1 = .error fault) :
    r.outcome state = .error (.database fault.message) := by
  unfold Request.outcome Request.exchange
  rw [refused]
  rfl

theorem outcome_of_received (result : ResultSet) (reply : Database.Reply)
    (answered : (r.executed state).1 = .ok result)
    (read : received r.operation r.unread result = .ok reply) :
    r.outcome state = Database.interpret r.operation reply := by
  unfold Request.outcome Request.exchange
  rw [answered]
  simp only [Except.bind, read, Database.limited]

/-- The rows under an id are those of the records under it. -/
theorem matching_perm (corresponds : Corresponds (server.rows state) s) {values : List Value}
    (key : values.getLast? = some (.text id)) :
    (server.matching state .id values).Perm ((s.records.filter (·.id == id)).map tupleOf) := by
  unfold Server.matching
  rw [key, ← filter_hasKey]
  exact corresponds.rows.filter _

theorem create_agrees {n : Notification} (executes : server.Executes)
    (asked : r.operation = .create n) (storable : r.operation.Storable server)
    (corresponds : Corresponds (server.rows state) s) : Agrees r state s := by
  have small : n.retryCount.toNat < 0x80000000 :=
    storable.retries n.retryCount (by rw [asked]; rfl)
  have ready : server.Ready (.insert Column.all) (Column.all.map (tupleOf n)) := by
    have ready := storable.ready
    rw [asked] at ready
    exact ready
  have executed : r.executed state =
      server.execute state (.insert Column.all) (Column.all.map (tupleOf n)) := by
    unfold Request.executed
    rw [asked]
    rfl
  cases found : s.find? n.id with
  | none =>
      have new : ∀ other ∈ server.rows state, other .id ≠ tupleOf n .id := by
        intro other member same
        obtain ⟨m, inside, rfl⟩ := List.mem_map.mp (corresponds.rows.mem_iff.mp member)
        exact find?_eq_none_iff.mp found m inside (Value.text.inj same)
      obtain ⟨⟨result, answered, -, -⟩, rows⟩ := executes.insert state (tupleOf n) ready new
      rw [← executed] at answered rows
      have applied : s.apply r.operation = (.ok none, ⟨s.records ++ [n]⟩) := by
        rw [asked]
        simp only [Store.apply, create_eq_ok_iff.mpr ⟨found, rfl⟩, written]
      have outcome : r.outcome state = .ok none := by
        rw [outcome_of_received result ⟨[], result.affected⟩ answered (by rw [asked]; rfl), asked]
        rfl
      refine .of_done applied outcome ⟨?_, distinct_concat corresponds.distinct found, ?_⟩
      · rw [List.map_append]
        exact rows.trans (corresponds.rows.append_right _)
      · intro other member
        obtain earlier | last := List.mem_append.mp member
        · exact corresponds.small other earlier
        · exact List.mem_singleton.mp last ▸ small
  | some other =>
      have taken : ∃ row ∈ server.rows state, row .id = tupleOf n .id := by
        obtain ⟨member, same⟩ := mem_of_find? found
        refine ⟨tupleOf other, corresponds.rows.mem_iff.mpr (List.mem_map_of_mem member), ?_⟩
        rw [tupleOf_id, tupleOf_id, same]
      obtain ⟨fault, refused⟩ := executes.duplicate state (tupleOf n) taken
      have left := executes.atomic _ _ _ _ refused
      rw [← executed] at refused left
      have applied : s.apply r.operation =
          (.error (.database ("notification " ++ n.id ++ " already exists")), s) := by
        rw [asked]
        simp only [Store.apply, Store.create, found, written]
      refine .of_unchanged corresponds applied ?_ left
      rw [outcome_of_refused refused]
      exact .broken _ _

theorem get_agrees (executes : server.Executes) (asked : r.operation = .get id)
    (storable : r.operation.Storable server)
    (corresponds : Corresponds (server.rows state) s) : Agrees r state s := by
  have ready : server.Ready (.select Column.all .id) [.text id] := by
    have ready := storable.ready
    rw [asked] at ready
    exact ready
  have executed : r.executed state = server.execute state (.select Column.all .id) [.text id] := by
    unfold Request.executed
    rw [asked]
    rfl
  obtain ⟨⟨result, answered, found, -⟩, rows⟩ := executes.select state _ _ _ ready
  rw [← executed] at answered rows
  have key : [Value.text id].getLast? = some (.text id) := rfl
  have sent := found.trans ((matching_perm corresponds key).map (·.fields Column.all))
  have applied : s.apply r.operation = ((s.get id).map some, s) := by rw [asked]; rfl
  have outcome : Same (r.outcome state) ((s.get id).map some) := by
    cases first : s.find? id with
    | none =>
        rw [filter_of_absent first] at sent
        have nothing : result.rows = [] := List.perm_nil.mp sent
        rw [outcome_of_received result ⟨[], result.affected⟩ answered
          (by rw [asked]; simp only [received, nothing]), asked, Store.get, first]
        exact .missing id
    | some n =>
        obtain ⟨m, read, back⟩ := notification_ofNotification n
        have retries : m.retryCount = n.retryCount := by
          rw [back.retries, if_pos (corresponds.small n (mem_of_find? first).1)]
        rw [filter_of_find? corresponds.distinct first] at sent
        have one : result.rows = [(tupleOf n).fields Column.all] := List.perm_singleton.mp sent
        rw [outcome_of_received result ⟨[.ofNotification n], result.affected⟩ answered
          (by rw [asked]; simp only [received, one]; rw [tupleOf, read_fields]), asked,
          Store.get, first]
        simp only [Database.interpret, List.head?_cons, read]
        exact .found back retries
  exact .of_unchanged corresponds applied outcome rows

/-- An operation that changes the record with an id, and that record's row likewise. -/
structure Updates (o : Operation) (id : String) (change : Notification → Notification) : Prop where
  applied : ∀ s : Store, s.apply o = s.written (s.update id change)
  interpreted : ∀ reply, Database.interpret o reply = Database.touched id reply
  received : ∀ unread result, Store.received o unread result = .ok ⟨[], result.affected⟩
  statement : ∃ columns, (Query.ofOperation o).statement = .update columns .id ∧
    columns.Nodup ∧ .id ∉ columns
  key : (Query.ofOperation o).parameters.getLast? = some (.text id)
  row : ∀ n, (tupleOf n).written o = tupleOf (change n)
  id : ∀ n, (change n).id = n.id
  small : (∀ n ∈ o.retries?, n.toNat < 0x80000000) → ∀ n, n.retryCount.toNat < 0x80000000 →
    (change n).retryCount.toNat < 0x80000000

theorem updates_setStatus (id : String) (status : Notification.Status) :
    Updates (.setStatus id status) id fun n => { n with status := status } where
  applied _ := rfl
  interpreted _ := rfl
  received _ _ := rfl
  statement := ⟨_, rfl, by decide, by decide⟩
  key := rfl
  row n := written_setStatus n id status
  id _ := rfl
  small _ _ small := small

theorem updates_markSent (id : String) (sentAt : Timestamp) (retries : UInt32) :
    Updates (.markSent id sentAt retries) id fun n => n.markSent sentAt retries where
  applied _ := rfl
  interpreted _ := rfl
  received _ _ := rfl
  statement := ⟨_, rfl, by decide, by decide⟩
  key := rfl
  row n := written_markSent n id sentAt retries
  id _ := rfl
  small bounded _ _ := bounded retries rfl

theorem updates_markFailed (id error : String) (retries : UInt32) :
    Updates (.markFailed id error retries) id fun n => n.markFailed error retries where
  applied _ := rfl
  interpreted _ := rfl
  received _ _ := rfl
  statement := ⟨_, rfl, by decide, by decide⟩
  key := rfl
  row n := written_markFailed n id error retries
  id _ := rfl
  small bounded _ _ := bounded retries rfl

/-- What the server does on an update: so many rows as there are records under the id are
changed, each as its record is. -/
theorem executed_update (executes : server.Executes) (updates : Updates r.operation id change)
    (storable : r.operation.Storable server) (corresponds : Corresponds (server.rows state) s) :
    (∃ result, (r.executed state).1 = .ok result ∧
      result.affected = (s.records.filter (·.id == id)).length) ∧
    (server.rows (r.executed state).2).Perm ((changed s id change).map tupleOf) := by
  obtain ⟨columns, statement, distinct, kept⟩ := updates.statement
  have ready := storable.ready
  have executed : r.executed state =
      server.execute state (.update columns .id) (Query.ofOperation r.operation).parameters := by
    rw [← statement]
    rfl
  rw [statement] at ready
  obtain ⟨⟨result, answered, -, affected⟩, rows⟩ :=
    executes.update state _ _ _ ready distinct kept
  rw [← executed] at answered rows
  have assigned : ∀ n, (tupleOf n).assign columns (Query.ofOperation r.operation).parameters =
      tupleOf (change n) := by
    intro n
    rw [← updates.row n, Tuple.written, statement, Statement.columns]
  have every : (s.records.map tupleOf).map (fun row : Tuple =>
        if row.hasKey .id (some (.text id)) then
          row.assign columns (Query.ofOperation r.operation).parameters
        else row) =
      (changed s id change).map tupleOf := by
    unfold changed
    rw [List.map_map, List.map_map]
    refine List.map_congr_left ?_
    intro n _
    simp only [Function.comp_apply, hasKey_tupleOf, assigned]
    split <;> rfl
  refine ⟨⟨result, answered, ?_⟩, ?_⟩
  · rw [affected, (matching_perm corresponds updates.key).length_eq, List.length_map]
  · rw [updates.key] at rows
    rw [← every]
    exact rows.trans (corresponds.rows.map _)

theorem update_agrees (executes : server.Executes) (updates : Updates r.operation id change)
    (storable : r.operation.Storable server) (corresponds : Corresponds (server.rows state) s) :
    Agrees r state s := by
  obtain ⟨⟨result, answered, affected⟩, rows⟩ :=
    executed_update executes updates storable corresponds
  have outcome := outcome_of_received (r := r) _ _ answered (updates.received r.unread _)
  rw [updates.interpreted, Database.touched, affected] at outcome
  cases found : s.find? id with
  | none =>
      have applied : s.apply r.operation = (.error (.notFound id), s) := by
        rw [updates.applied]
        simp only [Store.update, found, written]
      rw [filter_of_absent found, List.length_nil, if_pos rfl] at outcome
      rw [changed_of_absent found] at rows
      refine .of_unchanged corresponds applied ?_ (rows.trans corresponds.rows.symm)
      rw [outcome]
      exact .missing id
  | some n =>
      have applied : s.apply r.operation = (.ok none, ⟨changed s id change⟩) := by
        rw [updates.applied, update_of_find? found, written]
      rw [filter_of_find? corresponds.distinct found, List.length_singleton,
        if_neg Nat.one_ne_zero] at outcome
      refine .of_done applied outcome ⟨rows, ?_, ?_⟩
      · rw [ids_changed s updates.id]
        exact corresponds.distinct
      · exact forall_mem_changed corresponds.small (updates.small storable.retries)

theorem ping_agrees (executes : server.Executes) (asked : r.operation = .ping)
    (corresponds : Corresponds (server.rows state) s) : Agrees r state s := by
  have executed : r.executed state = server.execute state .one [] := by
    unfold Request.executed
    rw [asked]
    rfl
  obtain ⟨⟨result, answered, -, -⟩, rows⟩ := executes.one state
  rw [← executed] at answered rows
  have applied : s.apply r.operation = (.ok none, s) := by rw [asked]; rfl
  refine .of_unchanged corresponds applied ?_ rows
  rw [outcome_of_received result ⟨[], result.affected⟩ answered (by rw [asked]; rfl), asked]
  exact .done

/-- Every operation agrees on a table and a store that correspond. -/
theorem executed_agrees (executes : server.Executes) (storable : r.operation.Storable server)
    (corresponds : Corresponds (server.rows state) s) : Agrees r state s := by
  cases asked : r.operation with
  | create n => exact create_agrees executes asked storable corresponds
  | get id => exact get_agrees executes asked storable corresponds
  | setStatus id status =>
      exact update_agrees executes (asked ▸ updates_setStatus id status) storable corresponds
  | markSent id sentAt retries =>
      exact update_agrees executes (asked ▸ updates_markSent id sentAt retries) storable corresponds
  | markFailed id error retries =>
      exact update_agrees executes (asked ▸ updates_markFailed id error retries) storable
        corresponds
  | ping => exact ping_agrees executes asked corresponds

/-! ## Operations one after the other -/

/-- A database with its server, and a store in memory. -/
structure Pair (server : Server) where
  remote : Remote server
  store : Store

namespace Pair

/-- A database that was not asked anything yet, and an empty store. -/
def initial (start : server.State) : Pair server := ⟨⟨.initial, start⟩, .empty⟩

/-- Both after one operation. -/
def step (p : Pair server) (r : Request) : Pair server :=
  ⟨(p.remote.step r).2, (p.store.apply r.operation).2⟩

end Pair

/-- An operation, and what it was put to. -/
structure Comparison (server : Server) where
  request : Request
  before : Pair server

namespace Comparison

variable (c : Comparison server)

/-- What the database answers. -/
def database : Outcome := (c.before.remote.step c.request).1

/-- What the store in memory answers. -/
def memory : Outcome := (c.before.store.apply c.request.operation).1

def after : Pair server := c.before.step c.request

end Comparison

/-- The same operations put to both, oldest first. -/
def comparisons : Pair server → List Request → List (Comparison server)
  | _, [] => []
  | p, r :: rest => ⟨r, p⟩ :: comparisons (p.step r) rest

/-- While the circuit is closed, every operation comes to the server. -/
theorem step_of_closed {remote : Remote server} (closed : remote.breaker.state = .closed)
    (r : Request) :
    (remote.step r).1 = r.outcome remote.state ∧
      (remote.step r).2.state = (r.executed remote.state).2 := by
  have admission := Database.admission_of_closed (x := r.exchange remote.state) closed
  constructor
  · exact Database.outcome_of_closed closed
  · unfold Remote.step
    simp only [admission, Option.isSome_some, if_true]

theorem agrees_of_mem (executes : server.Executes) {p : Pair server} {requests : List Request}
    (corresponds : Corresponds (server.rows p.remote.state) p.store)
    (storable : ∀ r ∈ requests, r.operation.Storable server)
    (closed : ∀ c ∈ comparisons p requests, c.before.remote.breaker.state = .closed)
    (c : Comparison server) (member : c ∈ comparisons p requests) :
    Agrees c.request c.before.remote.state c.before.store := by
  induction requests generalizing p with
  | nil => cases member
  | cons r rest ih =>
      have agrees := executed_agrees executes (storable r List.mem_cons_self) corresponds
      have first : p.remote.breaker.state = .closed := closed ⟨r, p⟩ List.mem_cons_self
      have next : Corresponds (server.rows (p.step r).remote.state) (p.step r).store := by
        have after := (step_of_closed first r).2
        unfold Pair.step
        rw [after]
        exact agrees.corresponds
      cases member with
      | head => exact agrees
      | tail _ later =>
          exact ih next (fun r inside => storable r (List.mem_cons_of_mem _ inside))
            (fun c inside => closed c (List.mem_cons_of_mem _ inside)) later

/-- **The two stores agree.**  Put the same operations to a database whose server executes
their statements and answers in time, and to the store in memory, both empty at first.  As
long as both can hold what the operations say and the circuit of the database stays closed,
every operation has the same outcome on both sides, every record that is found is the same on
both to the microsecond, and an operation that fails changes neither. -/
theorem stores_agree (server : Server) (executes : server.Executes) (start : server.State)
    (empty : server.rows start = []) (requests : List Request)
    (storable : ∀ r ∈ requests, r.operation.Storable server)
    (closed : ∀ c ∈ comparisons (.initial start) requests,
      c.before.remote.breaker.state = .closed) :
    ∀ c ∈ comparisons (.initial start) requests,
      Same c.database c.memory ∧
      (c.database.isOk = false →
        (server.rows c.after.remote.state).Perm (server.rows c.before.remote.state) ∧
        c.after.store = c.before.store) := by
  intro c member
  have first : Corresponds (server.rows start) .empty := empty ▸ corresponds_empty
  have agrees := agrees_of_mem executes first storable closed c member
  obtain ⟨outcome, state⟩ := step_of_closed (closed c member) c.request
  have same : Same c.database c.memory := by
    unfold Comparison.database
    rw [outcome]
    exact agrees.outcome
  refine ⟨same, ?_⟩
  intro failed
  have memory : c.memory.isOk = false := by
    generalize c.database = left at same failed
    generalize c.memory = right at same ⊢
    cases same with
    | done | found => cases failed
    | missing | broken => rfl
  obtain ⟨rows, store⟩ := agrees.kept memory
  unfold Comparison.after Pair.step
  rw [state]
  exact ⟨rows, store⟩

/-- A table that says one thing of whatever it refuses. -/
def sampleServer : Server := Table.server 0 (.server "refused")

def sampleStart : sampleServer.State := Table.empty

/-- An operation that begins and ends at once. -/
def atOnce (o : Operation) : Request := ⟨o, 0, 0, .protocol "no such field"⟩

/-- A record is created twice, marked as sent, and looked for under its id and another. -/
def sample : List Request :=
  let n := Notification.fresh "n1" "guest@example.com" "Welcome" "Hello" .welcomeEmail ⟨0, 1⟩
  [.create n, .create n, .markSent "n1" ⟨1700000000, 1500⟩ 2, .get "n1", .get "n2"].map atOnce

theorem stores_agree_sample :
    sampleServer.Executes ∧ sampleServer.rows sampleStart = [] ∧
    (∀ r ∈ sample, r.operation.Storable sampleServer) ∧
    (∀ c ∈ comparisons (.initial sampleStart) sample,
      c.before.remote.breaker.state = .closed) ∧
    ∀ c ∈ comparisons (.initial sampleStart) sample,
      Same c.database c.memory ∧
      (c.database.isOk = false →
        (sampleServer.rows c.after.remote.state).Perm (sampleServer.rows c.before.remote.state) ∧
        c.after.store = c.before.store) := by
  have executes : sampleServer.Executes := Table.server_executes _ _
  have storable : ∀ r ∈ sample, r.operation.Storable sampleServer := by
    intro r member
    simp only [sample, List.map_cons, List.map_nil, List.mem_cons, List.not_mem_nil, or_false]
      at member
    obtain rfl | rfl | rfl | rfl | rfl := member <;>
      refine ⟨by decide, ?_, by decide, executes.short _ _ (by decide)⟩ <;>
      rintro n ⟨⟩ <;> decide
  have closed : ∀ c ∈ comparisons (.initial sampleStart) sample,
      c.before.remote.breaker.state = .closed := by
    decide
  exact ⟨executes, rfl, storable, closed,
    stores_agree sampleServer executes sampleStart rfl sample storable closed⟩

/-- A record from the year 5001 BC. -/
def ancient : Notification :=
  .fresh "n1" "guest@example.com" "Welcome" "Hello" .welcomeEmail
    ⟨Date.days ⟨-5000, 1, 1⟩ * 86400, 0⟩

/-- A thousand characters of three bytes, no two alike. -/
def thousand : List Char := (List.range 1000).map fun k => Char.ofNat (0x4E00 + k)

/-- A record with an id of three thousand bytes. -/
def lengthy : Notification :=
  .fresh (String.ofList thousand) "guest@example.com" "Welcome" "Hello" .welcomeEmail ⟨0, 0⟩

/-- A fresh record keeps to what is asked of texts and retries if its four texts do. -/
theorem sendable_fresh {id recipient subject body : String} (kind : Notification.Kind)
    (createdAt : Timestamp) (each : ∀ s ∈ [id, recipient, subject, body], '\x00' ∉ s.toList) :
    ∀ r ∈ [atOnce (.create (.fresh id recipient subject body kind createdAt))],
      (∀ s ∈ r.operation.texts, '\x00' ∉ s.toList) ∧
        ∀ k ∈ r.operation.retries?, k.toNat < 0x80000000 := by
  intro r member
  rw [List.mem_singleton.mp member]
  have none : (0 : UInt32).toNat < 0x80000000 := by decide
  exact ⟨each, fun k written => Option.some.inj written ▸ none⟩

theorem not_mem_thousand : '\x00' ∉ (String.ofList thousand).toList := by
  rw [String.toList_ofList]
  decide +kernel

/-- The first operation finds the circuit closed. -/
theorem closed_of_single (r : Request) :
    ∀ c ∈ comparisons (.initial sampleStart) [r], c.before.remote.breaker.state = .closed := by
  intro c member
  rw [List.mem_singleton.mp member]
  rfl

theorem not_ready_ancient :
    ¬ sampleServer.Ready (.insert Column.all) (Column.all.map (tupleOf ancient)) := by
  intro ready
  have taken := Table.takes_of_accepts_insert ready.1 .createdAt
  revert taken
  decide

theorem not_ready_lengthy :
    ¬ sampleServer.Ready (.insert Column.all) (Column.all.map (tupleOf lengthy)) := by
  intro ready
  have admitted := ready.2
  rw [sampleServer, Table.server_admits] at admitted
  have member : Column.id ∈ Table.indexed := by decide
  have short := Table.size_le_of_admits_insert admitted member
  have size : (Value.text lengthy.id).size = 3000 := by
    have text : lengthy.id.toList = thousand := String.toList_ofList
    rw [Value.size, text]
    decide +kernel
  rw [tupleOf_id, size] at short
  exact absurd short (by decide)

/-- What the table is not ready for is kept in memory alone. -/
theorem not_same_of_not_ready {n : Notification}
    (unfit : ¬ sampleServer.Ready (.insert Column.all) (Column.all.map (tupleOf n))) :
    let c : Comparison sampleServer := ⟨atOnce (.create n), .initial sampleStart⟩
    c.memory = .ok none ∧ ¬ Same c.database c.memory := by
  intro c
  have refused : ((atOnce (.create n)).executed sampleStart).1 =
      .error (.server "refused") :=
    congrArg Prod.fst (Table.execute_of_not_ready unfit)
  have database : c.database = .error (.database (Fault.message (.server "refused"))) :=
    (step_of_closed rfl c.request).1.trans (outcome_of_refused refused)
  have memory : c.memory = .ok none := rfl
  refine ⟨memory, ?_⟩
  rw [database, memory]
  exact fun same => nomatch same

/-- Texts without a zero character and a number of retries below 2 ^ 31 are not enough for the two
stores to agree: a server refuses a moment that is not in its calendar, and an id that is too long
for an index. -/
theorem stores_apart_beyond_limits :
    sampleServer.Executes ∧ sampleServer.rows sampleStart = [] ∧
    ∀ n ∈ [ancient, lengthy],
      let requests := [atOnce (.create n)]
      (∀ r ∈ requests, (∀ s ∈ r.operation.texts, '\x00' ∉ s.toList) ∧
        ∀ k ∈ r.operation.retries?, k.toNat < 0x80000000) ∧
      (∀ c ∈ comparisons (.initial sampleStart) requests,
        c.before.remote.breaker.state = .closed) ∧
      ∃ c ∈ comparisons (.initial sampleStart) requests,
        c.memory = .ok none ∧ ¬ Same c.database c.memory := by
  refine ⟨Table.server_executes _ _, rfl, ?_⟩
  intro n member
  simp only [List.mem_cons, List.not_mem_nil, or_false] at member
  obtain rfl | rfl := member
  · exact ⟨sendable_fresh _ _ (by decide), closed_of_single _, _, List.mem_cons_self,
      not_same_of_not_ready not_ready_ancient⟩
  · have others : ∀ s ∈ ["guest@example.com", "Welcome", "Hello"], '\x00' ∉ s.toList := by
      decide
    exact ⟨sendable_fresh _ _ (List.forall_mem_cons.mpr ⟨not_mem_thousand, others⟩),
      closed_of_single _, _, List.mem_cons_self, not_same_of_not_ready not_ready_lengthy⟩

end Courier.Store
