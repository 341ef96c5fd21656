import PamMvp.ConfigurationRows
import PamMvp.KeyedTables
import PamMvp.TableSchemas

/-!
# The shared configuration database

Three repositories keep their tables in one file. Whatever they store and in whatever
order, each answers like an abstract store of its own: a list of the objects whose
store succeeded. An operation that raises is rolled back.
-/
namespace PamMvp.ConfigurationDatabase
open PythonText DomainModel SqliteValues SqliteParameters RowCodecs ConfigurationRows KeyedTables
  TableSchemas PolicyStore

/-- The file `config.db`; a table is absent until its repository was opened. -/
structure ConfigDb where
  targets : Option (Table Row)
  accounts : Option (Table Row)
  policies : Option (Table PolicyRow)

def ConfigDb.empty : ConfigDb := ⟨none, none, none⟩

/-- What a caller hands to `store`: an object whose fields have their types, or
anything else. -/
inductive Argument (α : Type) where
  | object (a : α)
  | unsupported

section Adapters

def targetAdapter : TableAdapter Target where
  serialize := serializeTarget
  deserialize := deserializeTarget
  malformed := malformedTarget
  exact := target_exact
  duplicate := raised .duplicateTargetError (py "target id already exists")
  notStored := raised .configStorageError (py "target could not be stored")
  notLoaded := raised .configStorageError (py "target could not be loaded")

def accountAdapter : TableAdapter PrivilegedAccount where
  serialize := serializeAccount
  deserialize := deserializeAccount
  malformed := malformedAccount
  exact := account_exact
  duplicate := raised .duplicatePrivilegedAccountError (py "privileged account id already exists")
  notStored := raised .configStorageError (py "privileged account could not be stored")
  notLoaded := raised .configStorageError (py "privileged account could not be loaded")

def targetColumns : List Column :=
  [column "id" "TEXT" false 1, column "name" "TEXT" true 0, column "host" "TEXT" true 0,
    column "port" "INTEGER" true 0, column "expected_host_key" "TEXT" true 0,
    column "enabled" "INTEGER" true 0]

def accountColumns : List Column :=
  [column "id" "TEXT" false 1, column "target_id" "TEXT" true 0, column "username" "TEXT" true 0,
    column "credential_ref" "TEXT" true 0, column "enabled" "INTEGER" true 0]

def policyColumns : List Column :=
  [column "id" "TEXT" false 1, column "user_id" "TEXT" true 0, column "target_id" "TEXT" true 0,
    column "action" "TEXT" true 0, column "effect" "TEXT" true 0]

end Adapters

section Opening

/-- `_initialize_schema`: `CREATE TABLE IF NOT EXISTS` and the comparison of the
definition. A file that is not `available` cannot be secured or opened. -/
def openTable {ρ : Type} (columns : List Column) (notInitialized unsupported : PyExn)
    (available : Bool) (table : Option (Table ρ)) : Except PyExn (Table ρ) :=
  if !available then .error notInitialized
  else
    let table := table.getD ⟨columns, []⟩
    if table.definition ≠ columns then .error unsupported else .ok table

def openTargets : Bool → Option (Table Row) → Except PyExn (Table Row) :=
  openTable targetColumns
    (raised .configStorageError (py "target database could not be initialized"))
    (raised .configStorageError (py "target database schema is unsupported"))

def openAccounts : Bool → Option (Table Row) → Except PyExn (Table Row) :=
  openTable accountColumns
    (raised .configStorageError (py "privileged account database could not be initialized"))
    (raised .configStorageError (py "privileged account database schema is unsupported"))

def openPolicies : Bool → Option (Table PolicyRow) → Except PyExn (Table PolicyRow) :=
  openTable policyColumns
    (raised .policyStorageError (py "policy database could not be initialized"))
    (raised .policyStorageError (py "policy database schema is unsupported"))

end Opening

section Storing

def unsupportedTarget : PyExn :=
  raised .configStorageError (py "target contains unsupported field values")

def unsupportedAccount : PyExn :=
  raised .configStorageError (py "privileged account contains unsupported field values")

def unsupportedPolicy : PyExn :=
  raised .policyStorageError (py "policy contains unsupported field values")

/-- `store` into the table; without a table the statement fails. -/
def storeObject {α ρ : Type} (unsupported : PyExn)
    (store : Bool → List ρ → α → Except PyExn (List ρ)) (available : Bool)
    (table : Option (Table ρ)) : Argument α → Except PyExn (Option (Table ρ))
  | .unsupported => .error unsupported
  | .object a => do
    let rows ← store (available && table.isSome) (rowsOf table) a
    return table.map fun t => { t with rows := rows }

def storeTarget : Bool → Option (Table Row) → Argument Target → Except PyExn (Option (Table Row)) :=
  storeObject unsupportedTarget targetAdapter.store

def storeAccount :
    Bool → Option (Table Row) → Argument PrivilegedAccount → Except PyExn (Option (Table Row)) :=
  storeObject unsupportedAccount accountAdapter.store

def storePolicy : Bool → Option (Table PolicyRow) → Argument AccessPolicy →
    Except PyExn (Option (Table PolicyRow)) :=
  storeObject unsupportedPolicy PolicyStore.store

end Storing

section Queries

/-- `SQLiteTargetRepository.get`. -/
def getTarget (available : Bool) (db : ConfigDb) (targetId : PyStr) :
    Except PyExn (Option Target) := do
  if !(available && db.targets.isSome) then .error targetAdapter.notLoaded
  else
    let rows ← TableAdapter.select 0 targetId (rowsOf db.targets)
    match rows with
    | [] => return none
    | row :: _ => return some (← targetAdapter.deserialize (← targetAdapter.fetch row))

def ambiguousAccount : PyExn :=
  raised .ambiguousPrivilegedAccountError
    (py "target has ambiguous privileged account configuration")

/-- `ORDER BY id`. -/
def rowId (row : Row) : SqlValue := row[0]?.getD .null

/-- `SQLitePrivilegedAccountRepository.find_for_target`. -/
def findForTarget (available : Bool) (db : ConfigDb) (targetId : PyStr) :
    Except PyExn (Option PrivilegedAccount) := do
  if !(available && db.accounts.isSome) then .error accountAdapter.notLoaded
  else
    let selected ← TableAdapter.select 1 targetId (rowsOf db.accounts)
    let rows ← (orderBy rowId selected).mapM accountAdapter.fetch
    match rows with
    | [] => return none
    | [row] => return some (← accountAdapter.deserialize row)
    | _ => .error ambiguousAccount

/-- `SQLitePolicyRepository.find_matching`. -/
def findMatching (available : Bool) (db : ConfigDb) (userId targetId : PyStr)
    (action : AccessAction) : Except PyExn (List AccessPolicy) :=
  PolicyStore.findMatching (available && db.policies.isSome) (rowsOf db.policies) userId targetId
    action

end Queries

/-- The operations that can change the file. -/
inductive Operation where
  | openTargets (available : Bool)
  | openAccounts (available : Bool)
  | openPolicies (available : Bool)
  | storeTarget (available : Bool) (target : Argument Target)
  | storeAccount (available : Bool) (account : Argument PrivilegedAccount)
  | storePolicy (available : Bool) (policy : Argument AccessPolicy)

def Operation.run (db : ConfigDb) : Operation → Except PyExn ConfigDb
  | openTargets available => do
    let targets ← ConfigurationDatabase.openTargets available db.targets
    return { db with targets := some targets }
  | openAccounts available => do
    let accounts ← ConfigurationDatabase.openAccounts available db.accounts
    return { db with accounts := some accounts }
  | openPolicies available => do
    let policies ← ConfigurationDatabase.openPolicies available db.policies
    return { db with policies := some policies }
  | storeTarget available target => do
    return { db with targets := ← ConfigurationDatabase.storeTarget available db.targets target }
  | storeAccount available account => do
    return { db with
      accounts := ← ConfigurationDatabase.storeAccount available db.accounts account }
  | storePolicy available policy => do
    return { db with policies := ← ConfigurationDatabase.storePolicy available db.policies policy }

/-- The three abstract stores: the objects that were stored, in the order of the stores. -/
structure Stores where
  targets : List Target
  accounts : List PrivilegedAccount
  policies : List AccessPolicy

def Stores.empty : Stores := ⟨[], [], []⟩

/-- A store that succeeded. -/
def Stores.add (s : Stores) : Operation → Stores
  | .storeTarget _ (.object target) => { s with targets := s.targets ++ [target] }
  | .storeAccount _ (.object account) => { s with accounts := s.accounts ++ [account] }
  | .storePolicy _ (.object policy) => { s with policies := s.policies ++ [policy] }
  | _ => s

/-- The file and the stores after an operation; one that raises is rolled back. -/
def step (state : ConfigDb × Stores) (op : Operation) : ConfigDb × Stores :=
  match op.run state.1 with
  | .ok db => (db, state.2.add op)
  | .error _ => state

def after (ops : List Operation) : ConfigDb × Stores := ops.foldl step (.empty, .empty)

/-- The repository that an operation goes through. -/
inductive Repository where
  | targets
  | accounts
  | policies
  deriving DecidableEq

def Operation.repository : Operation → Repository
  | openTargets _ | storeTarget _ _ => .targets
  | openAccounts _ | storeAccount _ _ => .accounts
  | openPolicies _ | storePolicy _ _ => .policies

section Steps

variable {ρ : Type} {table : Option (Table ρ)}

theorem openTable_ok {columns : List Column} {notInitialized unsupported : PyExn}
    {available : Bool} {opened : Table ρ}
    (h : openTable columns notInitialized unsupported available table = .ok opened) :
    opened = table.getD ⟨columns, []⟩ := by
  unfold openTable at h
  dsimp only at h
  split_ifs at h
  cases h
  rfl

/-- Opening neither adds a row nor loses one. -/
theorem rowsOf_opened (columns : List Column) :
    rowsOf (some (table.getD ⟨columns, []⟩)) = rowsOf table := by
  cases table <;> rfl

theorem storeObject_ok {α : Type} {unsupported : PyExn} {available : Bool}
    {store : Bool → List ρ → α → Except PyExn (List ρ)} {argument : Argument α}
    {table' : Option (Table ρ)}
    (h : storeObject unsupported store available table argument = .ok table') :
    ∃ a rows, argument = .object a ∧ store (available && table.isSome) (rowsOf table) a = .ok rows ∧
      table' = table.map fun t => { t with rows := rows } := by
  cases argument with
  | unsupported => cases h
  | object a =>
    obtain ⟨rows, hstore, h⟩ := (except_bind_ok_iff _ _ _).mp h
    cases h
    exact ⟨a, rows, rfl, hstore, rfl⟩

theorem rowsOf_stored (rows : List ρ) (h : table.isSome = true) :
    rowsOf (table.map fun t => { t with rows := rows }) = rows := by
  obtain ⟨t, rfl⟩ := Option.isSome_iff_exists.mp h
  rfl

end Steps

/-- The rows of the file are the rows of the objects in the stores. -/
structure Represents (db : ConfigDb) (s : Stores) : Prop where
  targets : targetAdapter.Holds Target.id s.targets (rowsOf db.targets)
  accounts : accountAdapter.Holds PrivilegedAccount.id s.accounts (rowsOf db.accounts)
  policies : Reached s.policies (rowsOf db.policies)

section Columns

theorem targetAdapter_id : targetAdapter.HasColumn 0 Target.id := by
  intro target row h
  change serializeTarget target = .ok row at h
  unfold serializeTarget at h
  split_ifs at h
  cases h
  rfl

theorem accountAdapter_id : accountAdapter.HasColumn 0 PrivilegedAccount.id := by
  intro account row h
  change serializeAccount account = .ok row at h
  unfold serializeAccount at h
  split_ifs at h
  cases h
  rfl

theorem accountAdapter_targetId : accountAdapter.HasColumn 1 PrivilegedAccount.targetId := by
  intro account row h
  change serializeAccount account = .ok row at h
  unfold serializeAccount at h
  split_ifs at h
  cases h
  rfl

theorem accountAdapter_credentialRef :
    accountAdapter.HasColumn 3 fun account => account.credentialRef.id := by
  intro account row h
  change serializeAccount account = .ok row at h
  unfold serializeAccount at h
  split_ifs at h
  cases h
  rfl

theorem targetAdapter_nonblank {target : Target} {row : Row} (h : targetAdapter.Writes target row) :
    blank target.id = false := by
  obtain ⟨values, hserialize, -⟩ := (except_bind_ok_iff _ _ _).mp h
  change serializeTarget target = .ok values at hserialize
  unfold serializeTarget at hserialize
  split_ifs at hserialize with hcheck
  simp only [Bool.or_eq_true, not_or, Bool.not_eq_true] at hcheck
  exact hcheck.1.1.1.1

theorem accountAdapter_nonblank {account : PrivilegedAccount} {row : Row}
    (h : accountAdapter.Writes account row) : blank account.id = false := by
  obtain ⟨values, hserialize, -⟩ := (except_bind_ok_iff _ _ _).mp h
  change serializeAccount account = .ok values at hserialize
  unfold serializeAccount at hserialize
  split_ifs at hserialize with hcheck
  simp only [Bool.or_eq_true, not_or, Bool.not_eq_true] at hcheck
  exact hcheck.1.1.1

end Columns

section Runs

variable {db : ConfigDb} {s : Stores}

/-- A stored target can be asked for, and its id is not blank. -/
theorem Represents.target_valid (h : Represents db s) {target : Target} (ht : target ∈ s.targets) :
    encodable target.id = true ∧ blank target.id = false := by
  obtain ⟨row, -, hwrites⟩ := TableAdapter.exists_written h.targets.written ht
  exact ⟨(TableAdapter.writes_column targetAdapter_id hwrites).1, targetAdapter_nonblank hwrites⟩

/-- A stored account names a credential that can be asked for, and its id is not blank. -/
theorem Represents.account_valid (h : Represents db s) {account : PrivilegedAccount}
    (ha : account ∈ s.accounts) :
    encodable account.credentialRef.id = true ∧ blank account.id = false := by
  obtain ⟨row, -, hwrites⟩ := TableAdapter.exists_written h.accounts.written ha
  exact ⟨(TableAdapter.writes_column accountAdapter_credentialRef hwrites).1,
    accountAdapter_nonblank hwrites⟩

theorem represents_empty : Represents .empty .empty :=
  ⟨.nil _, .nil _, .empty⟩

/-- One operation keeps the file and the stores together. -/
theorem step_represents (h : Represents db s) (op : Operation) :
    Represents (step (db, s) op).1 (step (db, s) op).2 := by
  unfold step
  cases hrun : op.run db with
  | error e => exact h
  | ok db' =>
    cases op with
    | openTargets available =>
      obtain ⟨opened, hopen, hrun⟩ := (except_bind_ok_iff _ _ _).mp hrun
      cases hrun
      rw [openTable_ok hopen]
      refine ⟨?_, h.accounts, h.policies⟩
      rw [rowsOf_opened]
      exact h.targets
    | openAccounts available =>
      obtain ⟨opened, hopen, hrun⟩ := (except_bind_ok_iff _ _ _).mp hrun
      cases hrun
      rw [openTable_ok hopen]
      refine ⟨h.targets, ?_, h.policies⟩
      rw [rowsOf_opened]
      exact h.accounts
    | openPolicies available =>
      obtain ⟨opened, hopen, hrun⟩ := (except_bind_ok_iff _ _ _).mp hrun
      cases hrun
      rw [openTable_ok hopen]
      refine ⟨h.targets, h.accounts, ?_⟩
      rw [rowsOf_opened]
      exact h.policies
    | storeTarget available argument =>
      obtain ⟨table, hstored, hrun⟩ := (except_bind_ok_iff _ _ _).mp hrun
      cases hrun
      obtain ⟨target, rows, rfl, hstore, rfl⟩ := storeObject_ok hstored
      have hopened := (TableAdapter.store_ok_iff.mp hstore).1
      rw [Bool.and_eq_true] at hopened
      refine ⟨?_, h.accounts, h.policies⟩
      rw [rowsOf_stored rows hopened.2]
      exact h.targets.store targetAdapter_id hstore
    | storeAccount available argument =>
      obtain ⟨table, hstored, hrun⟩ := (except_bind_ok_iff _ _ _).mp hrun
      cases hrun
      obtain ⟨account, rows, rfl, hstore, rfl⟩ := storeObject_ok hstored
      have hopened := (TableAdapter.store_ok_iff.mp hstore).1
      rw [Bool.and_eq_true] at hopened
      refine ⟨h.targets, ?_, h.policies⟩
      rw [rowsOf_stored rows hopened.2]
      exact h.accounts.store accountAdapter_id hstore
    | storePolicy available argument =>
      obtain ⟨table, hstored, hrun⟩ := (except_bind_ok_iff _ _ _).mp hrun
      cases hrun
      obtain ⟨policy, rows, rfl, hstore, rfl⟩ := storeObject_ok hstored
      have hopened := (PolicyStore.store_ok_iff.mp hstore).1
      rw [Bool.and_eq_true] at hopened
      refine ⟨h.targets, h.accounts, ?_⟩
      rw [rowsOf_stored rows hopened.2]
      exact h.policies.store _ policy hstore

/-- The induction over a run: every operation keeps the file and the stores together. -/
theorem foldl_represents {state : ConfigDb × Stores} (h : Represents state.1 state.2)
    (ops : List Operation) : Represents (ops.foldl step state).1 (ops.foldl step state).2 := by
  induction ops generalizing state with
  | nil => exact h
  | cons op ops ih => exact ih (step_represents h op)

theorem after_represents (ops : List Operation) : Represents (after ops).1 (after ops).2 :=
  foldl_represents represents_empty ops

theorem after_concat (ops : List Operation) (op : Operation) :
    after (ops ++ [op]) = step (after ops) op := by
  simp [after]

/-- An operation of one repository leaves the tables of the others alone. -/
theorem step_frame (state : ConfigDb × Stores) (op : Operation) :
    (op.repository ≠ .targets → (step state op).1.targets = state.1.targets) ∧
    (op.repository ≠ .accounts → (step state op).1.accounts = state.1.accounts) ∧
    (op.repository ≠ .policies → (step state op).1.policies = state.1.policies) := by
  unfold step
  cases hrun : op.run state.1 with
  | error e => simp
  | ok db' =>
    cases op <;>
    · obtain ⟨table, -, hrun⟩ := (except_bind_ok_iff _ _ _).mp hrun
      cases hrun
      simp [Operation.repository]

end Runs

section Answers

/-- The account that a target calls for. -/
def Stores.accountFor (s : Stores) (targetId : PyStr) : Except PyExn (Option PrivilegedAccount) :=
  match s.accounts.filter (·.targetId = targetId) with
  | [] => .ok none
  | [account] => .ok (some account)
  | _ => .error ambiguousAccount

variable {db : ConfigDb} {s : Stores} {targetId : PyStr}

/-- Without ambiguity the account is found by its target. -/
theorem accountFor_single (h : (s.accounts.filter (·.targetId = targetId)).length ≤ 1) :
    s.accountFor targetId = .ok (s.accounts.find? (·.targetId = targetId)) := by
  rw [← List.head?_filter, Stores.accountFor]
  generalize s.accounts.filter (·.targetId = targetId) = found at h ⊢
  match found, h with
  | [], _ => rfl
  | [_], _ => rfl
  | _ :: _ :: _, h => simp at h

theorem getTarget_represented (h : Represents db s) (hopened : db.targets.isSome = true)
    (ht : encodable targetId = true) :
    getTarget true db targetId = .ok (s.targets.find? (·.id = targetId)) := by
  obtain ⟨rows, hselect, hwritten⟩ := h.targets.select targetAdapter_id ht
  simp only [getTarget, hopened, Bool.and_self, Bool.not_true, Bool.false_eq_true,
    if_false, hselect]
  rw [← List.head?_filter]
  generalize s.targets.filter (·.id = targetId) = found at hwritten ⊢
  cases hwritten with
  | nil => rfl
  | cons hwrites hrest =>
    obtain ⟨values, hfetch, hread⟩ := hwrites.load
    simp only [bind, Except.bind, hfetch, hread]
    rfl

theorem findForTarget_represented (h : Represents db s) (hopened : db.accounts.isSome = true)
    (ht : encodable targetId = true) : findForTarget true db targetId = s.accountFor targetId := by
  obtain ⟨rows, hselect, hwritten⟩ := h.accounts.select accountAdapter_targetId ht
  have hall : ∀ row ∈ orderBy rowId rows, ∃ a, accountAdapter.Writes a row := fun row hrow =>
    TableAdapter.exists_object hwritten (mem_orderBy.mp hrow)
  obtain ⟨tuples, hfetched, hlength⟩ := TableAdapter.fetch_all hall
  rw [(orderBy_perm rows).length_eq, ← hwritten.length_eq] at hlength
  simp only [findForTarget, hopened, Bool.and_self, Bool.not_true, Bool.false_eq_true, if_false,
    hselect, bind, Except.bind, hfetched, Stores.accountFor]
  generalize s.accounts.filter (·.targetId = targetId) = found at hwritten hlength ⊢
  -- The number of the rows decides, and one row is read as its account.
  match found, hwritten, tuples, hlength with
  | [], _, [], _ => rfl
  | [account], .cons hwrites .nil, [values], _ =>
    obtain ⟨values', hfetch, hread⟩ := hwrites.load
    have hsingle : [values'] = [values] := by
      rw [orderBy_of_pairwise (List.pairwise_singleton _ _), List.mapM_cons, hfetch] at hfetched
      exact Except.ok.inj hfetched
    cases hsingle
    simp only [hread]
    rfl
  | _ :: _ :: _, _, _ :: _ :: _, _ => rfl

theorem policyIds_nodup {policies : List AccessPolicy} {table : List PolicyRow}
    (h : Reached policies table) : (policies.map AccessPolicy.id).Nodup := by
  induction h with
  | empty => exact List.nodup_nil
  | @store policies table _ _ policy h hstore ih =>
    obtain ⟨-, -, hfresh, -⟩ := store_ok_iff.mp hstore
    rw [List.map_append, List.map_singleton]
    refine List.Nodup.append ih (List.nodup_singleton _) ?_
    rw [List.disjoint_singleton]
    intro hmem
    obtain ⟨p, hp, hid⟩ := List.mem_map.mp hmem
    rw [h.table_eq] at hfresh
    exact hfresh (rowOf p) (List.mem_map_of_mem hp) (by rw [rowOf, hid])

/-- Policies with different ids are in strictly increasing order after sorting. -/
theorem orderBy_strict {policies : List AccessPolicy}
    (h : (policies.map AccessPolicy.id).Nodup) :
    (orderBy idColumn policies).Pairwise (·.id < ·.id) := by
  have hsorted : (orderBy idColumn policies).Pairwise fun p q => idColumn p ≤ idColumn q :=
    orderBy_pairwise policies
  have hdistinct : (orderBy idColumn policies).Pairwise (·.id ≠ ·.id) := by
    rw [← List.pairwise_map (f := AccessPolicy.id) (R := (· ≠ ·))]
    exact ((orderBy_perm policies).map AccessPolicy.id).nodup_iff.mpr h
  refine (hsorted.and hdistinct).imp fun {p q} hpq => ?_
  exact lt_of_le_of_ne ((text_le_text p.id q.id).mp hpq.1) hpq.2

theorem findMatching_represented (h : Represents db s) (hopened : db.policies.isSome = true)
    {userId : PyStr} (hu : encodable userId = true) (ht : encodable targetId = true)
    (action : AccessAction) :
    ∃ found, findMatching true db userId targetId action = .ok found ∧
      found.Perm (s.policies.filter (IsFor userId targetId action)) ∧
      found.Pairwise (·.id < ·.id) := by
  refine ⟨_, ?_, orderBy_perm _, orderBy_strict ?_⟩
  · rw [findMatching, hopened]
    exact findMatching_reached h.policies hu ht action
  · have hids := policyIds_nodup h.policies
    exact hids.sublist ((List.filter_sublist).map AccessPolicy.id)

/-- What an opened repository answers to every query. -/
structure Answers (db : ConfigDb) (s : Stores) : Prop where
  target : db.targets.isSome = true → ∀ t, getTarget true db t =
    if encodable t then .ok (s.targets.find? (·.id = t)) else .error (bindExn .unicodeEncode)
  account : db.accounts.isSome = true → ∀ t, findForTarget true db t =
    if encodable t then s.accountFor t else .error (bindExn .unicodeEncode)
  matching : db.policies.isSome = true → ∀ u t action,
    encodable u = true ∧ encodable t = true →
      ∃ found, findMatching true db u t action = .ok found ∧
        found.Perm (s.policies.filter (IsFor u t action)) ∧ found.Pairwise (·.id < ·.id)
  unmatchable : db.policies.isSome = true → ∀ u t action,
    encodable u = false ∨ encodable t = false →
      findMatching true db u t action = .error (bindExn .unicodeEncode)

theorem findMatching_unencodable (hopened : db.policies.isSome = true) {userId : PyStr}
    (h : encodable userId = false ∨ encodable targetId = false) (action : AccessAction) :
    findMatching true db userId targetId action = .error (bindExn .unicodeEncode) := by
  unfold findMatching PolicyStore.findMatching
  cases hu : encodable userId with
  | false => simp [hopened, bindParameter_str, hu, bind, Except.bind]
  | true =>
    have ht : encodable targetId = false := h.resolve_left (by simp [hu])
    simp [hopened, bindParameter_str, hu, ht, bind, Except.bind]

theorem answers_of_represents (h : Represents db s) : Answers db s where
  target hopened t := by
    cases ht : encodable t with
    | true => simpa using getTarget_represented h hopened ht
    | false =>
      simp only [getTarget, hopened, TableAdapter.select_unencodable ht]
      rfl
  account hopened t := by
    cases ht : encodable t with
    | true => simpa using findForTarget_represented h hopened ht
    | false =>
      simp only [findForTarget, hopened, TableAdapter.select_unencodable ht]
      rfl
  matching hopened u t action henc := findMatching_represented h hopened henc.1 henc.2 action
  unmatchable hopened u t action henc := findMatching_unencodable hopened henc action

/-- Whatever the three repositories store, and in whatever order they are opened and
used, every answer is the one of the stored objects of that repository. An operation
that raises changes nothing, and neither does one through another repository. -/
theorem repositories_refine_stores (ops : List Operation) :
    Answers (after ops).1 (after ops).2 ∧
    (∀ op e, op.run (after ops).1 = .error e → after (ops ++ [op]) = after ops) ∧
    (∀ op, op.repository ≠ .targets → ∀ available t,
      getTarget available (after (ops ++ [op])).1 t = getTarget available (after ops).1 t) ∧
    (∀ op, op.repository ≠ .accounts → ∀ available t,
      findForTarget available (after (ops ++ [op])).1 t = findForTarget available (after ops).1 t) ∧
    (∀ op, op.repository ≠ .policies → ∀ available u t action,
      findMatching available (after (ops ++ [op])).1 u t action =
        findMatching available (after ops).1 u t action) := by
  have hframe := step_frame (after ops)
  refine ⟨answers_of_represents (after_represents ops), fun op e hrun => ?_, fun op hop _ _ => ?_,
    fun op hop _ _ => ?_, fun op hop _ _ _ _ => ?_⟩
  · rw [after_concat, step, hrun]
  · simp only [getTarget, after_concat, (hframe op).1 hop]
  · simp only [findForTarget, after_concat, (hframe op).2.1 hop]
  · simp only [findMatching, after_concat, (hframe op).2.2 hop]

/-- A target id with a lone surrogate names no target, but there is no answer. -/
theorem getTarget_surrogate :
    ¬ ∀ (ops : List Operation) (t : PyStr), (after ops).1.targets.isSome = true →
      getTarget true (after ops).1 t = .ok ((after ops).2.targets.find? (·.id = t)) := by
  intro h
  have hopened : (after [.openTargets true]).1.targets.isSome = true := by decide +kernel
  have hanswer := h [.openTargets true] [0xD800] hopened
  have hraises : getTarget true (after [.openTargets true]).1 [0xD800] =
      .error (bindExn .unicodeEncode) := by
    rw [(answers_of_represents (after_represents _)).target hopened]
    decide +kernel
  rw [hraises] at hanswer
  cases hanswer

end Answers

end PamMvp.ConfigurationDatabase
