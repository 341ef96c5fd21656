import PamMvp.ProvisionedAccess

/-!
# The registry of accounts

What the authentication database means: a list of accounts, no two of which share an id or a
name, and none of which the table could not hold. `create_user` adds an account or refuses it
as the registry does, a lookup finds what the registry has under a name, and so a user can
authenticate exactly as the registry says, after any attempts to create users.
-/
namespace PamMvp.AccountRegistry
open PythonText DomainModel SqliteValues SqliteParameters RowCodecs InteractionPrograms
  UserAuthentication TableConstraints AdapterSchemas EnforcedUniqueness CreatedTables
  RuntimeFiles ProvisionedRecords
open ProvisionedAccess (exampleEnv exampleEnv_reliable)

section Registry

/-- A user and a hash that the table can hold. -/
structure Account where
  user : User
  passwordHash : PyStr
  id_nonblank : blank user.id = false
  username_nonblank : blank user.username = false
  argon2 : (py "$argon2id$").isPrefixOf passwordHash = true
  id_encodes : encodable user.id = true
  username_encodes : encodable user.username = true
  hash_encodes : encodable passwordHash = true

/-- The account of a user, with what the hasher makes of the password. -/
def newAccount (user : User) (hash : Except PyExn PyValue) : Except PyExn Account :=
  if hblank : blank user.id = false ∧ blank user.username = false then
    match hash with
    | .error e => .error (if e.isException then userNotCreated else e)
    | .ok (.str passwordHash) =>
      if hprefix : (py "$argon2id$").isPrefixOf passwordHash = true then
        if hencodes : encodable user.id = true ∧ encodable user.username = true ∧
            encodable passwordHash = true then
          .ok ⟨user, passwordHash, hblank.1, hblank.2, hprefix, hencodes.1, hencodes.2.1,
            hencodes.2.2⟩
        else .error (bindExn .unicodeEncode)
      else .error userNotCreated
    | .ok _ => .error userNotCreated
  else .error (raised .userAuthStorageError (py "PAM user contains unsupported field values"))

/-- The accounts in the order of their creation. -/
structure Registry where
  accounts : List Account
  ids : (accounts.map fun a => a.user.id).Nodup
  usernames : (accounts.map fun a => a.user.username).Nodup

namespace Registry

def empty : Registry := ⟨[], List.nodup_nil, List.nodup_nil⟩

theorem nodup_concat {key : Account → PyStr} {accounts : List Account} {a : Account}
    (h : (accounts.map key).Nodup) (ha : key a ∉ accounts.map key) :
    ((accounts ++ [a]).map key).Nodup := by
  rw [List.map_append, List.map_singleton]
  refine h.append (List.nodup_singleton _) ?_
  rwa [List.disjoint_singleton]

/-- The name is looked at first: its index is the last one of the table. -/
def add (registry : Registry) (a : Account) : Except PyExn Registry :=
  if hname : ∃ other ∈ registry.accounts, other.user.username = a.user.username then
    .error duplicateUsername
  else if hid : ∃ other ∈ registry.accounts, other.user.id = a.user.id then .error duplicateUserId
  else .ok ⟨registry.accounts ++ [a], nodup_concat registry.ids (mt List.mem_map.mp hid),
    nodup_concat registry.usernames (mt List.mem_map.mp hname)⟩

/-- What `create_user` means. -/
def create (registry : Registry) (user : User) (hash : Except PyExn PyValue) :
    Except PyExn Registry := do
  registry.add (← newAccount user hash)

/-- What `find_by_username` means. -/
def find (registry : Registry) (username : PyStr) : Option Account :=
  registry.accounts.find? fun a => a.user.username = username

/-- What `authenticate` means. -/
def authenticate (registry : Registry) (argon2 : Argon2) (username password : PyStr) :
    Outcome authSignature AuthenticatedPrincipal :=
  match registry.find username with
  | none => .raise authenticationFailed
  | some a =>
    if a.user.isActive = true ∧ argon2.verifyPassword password a.passwordHash = .ok (.bool true)
    then .ret ⟨a.user.id, a.user.username, a.id_nonblank, a.username_nonblank⟩
    else .raise authenticationFailed

/-- An attempt to create a user. -/
structure Attempt where
  user : User
  hash : Except PyExn PyValue

/-- An attempt that is refused changes nothing. -/
def attempt (registry : Registry) (a : Attempt) : Except PyExn Unit × Registry :=
  match registry.create a.user a.hash with
  | .ok registry' => (.ok (), registry')
  | .error e => (.error e, registry)

def attemptAll (registry : Registry) : List Attempt → List (Except PyExn Unit) × Registry
  | [] => ([], registry)
  | a :: attempts =>
    let (result, registry₁) := registry.attempt a
    let (results, registry₂) := registry₁.attemptAll attempts
    (result :: results, registry₂)

theorem attempt_prefix (registry : Registry) (a : Attempt) :
    registry.accounts <+: (registry.attempt a).2.accounts := by
  unfold attempt
  cases hcreate : registry.create a.user a.hash with
  | error e => exact List.prefix_rfl
  | ok registry' =>
    obtain ⟨account, -, hadd⟩ := (except_bind_ok_iff _ _ _).mp hcreate
    unfold add at hadd
    split_ifs at hadd
    cases hadd
    exact List.prefix_append _ _

/-- Accounts stay. -/
theorem attemptAll_prefix (registry : Registry) (attempts : List Attempt) :
    registry.accounts <+: (registry.attemptAll attempts).2.accounts := by
  induction attempts generalizing registry with
  | nil => exact List.prefix_rfl
  | cons a attempts ih => exact (registry.attempt_prefix a).trans (ih (registry.attempt a).2)

theorem attemptAll_append (registry : Registry) (attempts attempts' : List Attempt) :
    (registry.attemptAll (attempts ++ attempts')).2 =
      ((registry.attemptAll attempts).2.attemptAll attempts').2 := by
  induction attempts generalizing registry with
  | nil => rfl
  | cons a attempts ih => exact ih (registry.attempt a).2

/-- An attempt that succeeds adds the account of the user with the hash. -/
theorem attempt_ok {registry : Registry} {a : Attempt} (h : (registry.attempt a).1 = .ok ()) :
    ∃ account, newAccount a.user a.hash = .ok account ∧
      account ∈ (registry.attempt a).2.accounts := by
  unfold attempt at h ⊢
  cases hcreate : registry.create a.user a.hash with
  | error e =>
    rw [hcreate] at h
    cases h
  | ok registry' =>
    obtain ⟨account, hnew, hadd⟩ := (except_bind_ok_iff _ _ _).mp hcreate
    refine ⟨account, hnew, ?_⟩
    unfold add at hadd
    split_ifs at hadd
    cases hadd
    exact List.mem_append_right _ (List.mem_singleton_self account)

/-- No other account has the name. -/
theorem find_mem {registry : Registry} {a : Account} (h : a ∈ registry.accounts) :
    registry.find a.user.username = some a := by
  have hnames := registry.usernames
  unfold find
  revert h hnames
  generalize registry.accounts = accounts
  intro h hnames
  induction accounts with
  | nil => cases h
  | cons b accounts ih =>
    rw [List.map_cons, List.nodup_cons] at hnames
    rcases List.mem_cons.mp h with rfl | hmem
    · simp
    · have hother : b.user.username ≠ a.user.username := by
        intro hsame
        apply hnames.1
        rw [hsame]
        exact List.mem_map.mpr ⟨a, hmem, rfl⟩
      rw [List.find?_cons_of_neg (by simpa using hother)]
      exact ih hmem hnames.2

theorem find_unencodable (registry : Registry) {username : PyStr}
    (h : ¬ encodable username = true) : registry.find username = none := by
  refine List.find?_eq_none.mpr fun a _ hname => h ?_
  have hsame : a.user.username = username := by simpa using hname
  rw [← hsame]
  exact a.username_encodes

end Registry

end Registry

section Refinement

/-- The attempts, one after the other, on the database. -/
def attemptAll (pick : HeadChoice) :
    List Registry.Attempt → Database → Option (List (Except PyExn Unit) × Database)
  | [], db => some ([], db)
  | a :: attempts, db => do
    let (result, db₁) ← (Operation.createUser a.user a.hash).perform pick db
    let (results, db₂) ← attemptAll pick attempts db₁
    return (result :: results, db₂)

def accountRow (a : Account) : List SqlValue :=
  (userParameters a.user a.passwordHash).map PyValue.stored

/-- The table of the users has the rows of the accounts. -/
def Represents (registry : Registry) (db : Database) : Prop :=
  Holding .userAuth db (registry.accounts.map accountRow)

variable {registry : Registry} {db : Database} {a b : Account} {pick : HeadChoice}

theorem serializeUser_eq (user : User) : ConfigurationRows.serializeUser user =
    if blank user.id = false ∧ blank user.username = false then .ok (user.id, user.username)
    else .error (raised .userAuthStorageError
      (py "PAM user contains unsupported field values")) := by
  unfold ConfigurationRows.serializeUser
  cases blank user.id <;> cases blank user.username <;> rfl

theorem accountRow_id (a : Account) :
    valueOf userColumns (accountRow a) (py "id") = .text (utf8 a.user.id) := rfl

theorem accountRow_username (a : Account) :
    valueOf userColumns (accountRow a) (py "username") = .text (utf8 a.user.username) := rfl

/-- The rows of two accounts are in conflict where the accounts share the key. -/
theorem conflicts_id : (primaryKeyOn "id").conflicts userColumns (accountRow a) (accountRow b) =
    decide (b.user.id = a.user.id) := by
  have hsame : utf8 a.user.id = utf8 b.user.id ↔ b.user.id = a.user.id :=
    ⟨fun h => (utf8_injective a.id_encodes b.id_encodes h).symm, fun h => by rw [h]⟩
  simp [Constraint.conflicts, primaryKeyOn, Constraint.covers, Constraint.parts, Part.value,
    Part.collate, accountRow_id, hsame]

theorem conflicts_username :
    (uniqueOn "username").conflicts userColumns (accountRow a) (accountRow b) =
      decide (b.user.username = a.user.username) := by
  have hsame : utf8 a.user.username = utf8 b.user.username ↔ b.user.username = a.user.username :=
    ⟨fun h => (utf8_injective a.username_encodes b.username_encodes h).symm, fun h => by rw [h]⟩
  simp [Constraint.conflicts, uniqueOn, Constraint.covers, Constraint.parts, Part.value,
    Part.collate, accountRow_username, hsame]

theorem any_id (registry : Registry) (a : Account) :
    (registry.accounts.map accountRow).any
      ((primaryKeyOn "id").conflicts userColumns (accountRow a)) =
        decide (a.user.id ∈ registry.accounts.map fun a => a.user.id) := by
  rw [Bool.eq_iff_iff]
  simp only [List.any_map, List.any_eq_true, Function.comp_apply, conflicts_id, decide_eq_true_eq,
    List.mem_map]

theorem any_username (registry : Registry) (a : Account) :
    (registry.accounts.map accountRow).any
      ((uniqueOn "username").conflicts userColumns (accountRow a)) =
        decide (a.user.username ∈ registry.accounts.map fun a => a.user.username) := by
  rw [Bool.eq_iff_iff]
  simp only [List.any_map, List.any_eq_true, Function.comp_apply, conflicts_username,
    decide_eq_true_eq, List.mem_map]

theorem parameters_bind (a : Account) :
    ∀ v ∈ userParameters a.user a.passwordHash, v.fits = true ∧ v.encodes = true := by
  intro v hv
  simp only [userParameters, List.mem_cons, List.not_mem_nil, or_false] at hv
  rcases hv with rfl | rfl | rfl | rfl
  · exact ⟨rfl, a.id_encodes⟩
  · exact ⟨rfl, a.username_encodes⟩
  · exact ⟨rfl, a.hash_encodes⟩
  · exact ⟨ConfigurationRows.flagValue_fits _, rfl⟩

theorem checkColumns_account (a : Account) :
    checkColumns UserAuth.tableName UserAuth.created.columns (accountRow a) =
      .ok (accountRow a) := rfl

theorem created_checkOrder :
    UserAuth.created.checkOrder = [uniqueOn "username", primaryKeyOn "id"] := rfl

theorem resolve_refused_username {rows : List (List SqlValue)} {row : List SqlValue}
    (h : rows.any ((uniqueOn "username").conflicts userColumns row) = true) :
    resolve UserAuth.tableName userColumns row UserAuth.created.checkOrder rows =
      .error (.failed ((uniqueOn "username").message UserAuth.tableName)) := by
  rw [created_checkOrder, resolve, if_pos h]
  rfl

theorem resolve_refused_id {rows : List (List SqlValue)} {row : List SqlValue}
    (hname : rows.any ((uniqueOn "username").conflicts userColumns row) = false)
    (h : rows.any ((primaryKeyOn "id").conflicts userColumns row) = true) :
    resolve UserAuth.tableName userColumns row UserAuth.created.checkOrder rows =
      .error (.failed ((primaryKeyOn "id").message UserAuth.tableName)) := by
  rw [created_checkOrder, resolve, if_neg (by simp [hname]), resolve, if_pos h]
  rfl

theorem createError_id : createError (raised .sqliteIntegrityError
    ((primaryKeyOn "id").message UserAuth.tableName)) = duplicateUserId := by decide

theorem createError_username : createError (raised .sqliteIntegrityError
    ((uniqueOn "username").message UserAuth.tableName)) = duplicateUsername := by decide

/-- A row that a constraint refuses. -/
theorem insert_stopped (h : Represents registry db) {c : Constraint}
    (hresolve : resolve UserAuth.tableName userColumns (accountRow a) UserAuth.created.checkOrder
      (registry.accounts.map accountRow) = .error (.failed (c.message UserAuth.tableName))) :
    db.insert UserAuth.tableName userColumns (userParameters a.user a.passwordHash) =
      .error (raised .sqliteIntegrityError (c.message UserAuth.tableName)) := by
  have htable : db.table? UserAuth.tableName =
      some ⟨UserAuth.created, registry.accounts.map accountRow⟩ := h.table
  have hnames : UserAuth.created.columnNames = userColumns := created_columnNames .userAuth
  have hinsert : StoredTable.insert ⟨UserAuth.created, registry.accounts.map accountRow⟩
      (accountRow a) = .error (c.message UserAuth.tableName) := by
    have hcolumns : checkColumns UserAuth.created.name UserAuth.created.columns (accountRow a) =
        .ok (accountRow a) := checkColumns_account a
    have hstopped : resolve UserAuth.created.name UserAuth.created.columnNames (accountRow a)
        UserAuth.created.checkOrder (registry.accounts.map accountRow) =
          .error (.failed (c.message UserAuth.tableName)) := by
      rw [hnames]
      exact hresolve
    simp only [StoredTable.insert, hcolumns, hstopped, bind, Except.bind]
  simp only [Database.insert, (mapM_bindParameter_ok_iff _ _).mpr ⟨parameters_bind a, rfl⟩, bind,
    Except.bind, htable, hnames]
  rw [if_neg (by simp)]
  have hrow : (userParameters a.user a.passwordHash).map PyValue.stored = accountRow a := rfl
  rw [hrow]
  simp only [hinsert]

/-- The `INSERT` of an account does what the registry does. -/
theorem insert_account (h : Represents registry db) (a : Account) :
    (∃ registry' db', registry.add a = .ok registry' ∧ Represents registry' db' ∧
      db.insert UserAuth.tableName userColumns (userParameters a.user a.passwordHash) = .ok db') ∨
    ∃ e, registry.add a = .error (createError e) ∧
      db.insert UserAuth.tableName userColumns (userParameters a.user a.passwordHash) =
        .error e := by
  have hanyId := any_id registry a
  have hanyUsername := any_username registry a
  by_cases hname : a.user.username ∈ registry.accounts.map fun a => a.user.username
  · rw [decide_eq_true hname] at hanyUsername
    refine .inr ⟨_, ?_, insert_stopped h (resolve_refused_username hanyUsername)⟩
    rw [createError_username, Registry.add, dif_pos (List.mem_map.mp hname)]
  rw [decide_eq_false hname] at hanyUsername
  by_cases hid : a.user.id ∈ registry.accounts.map fun a => a.user.id
  · rw [decide_eq_true hid] at hanyId
    refine .inr ⟨_, ?_, insert_stopped h (resolve_refused_id hanyUsername hanyId)⟩
    rw [createError_id, Registry.add, dif_neg (mt List.mem_map.mpr hname),
      dif_pos (List.mem_map.mp hid)]
  rw [decide_eq_false hid] at hanyId
  have hadd : registry.add a = .ok ⟨registry.accounts ++ [a],
      Registry.nodup_concat registry.ids hid, Registry.nodup_concat registry.usernames hname⟩ := by
    rw [Registry.add, dif_neg (mt List.mem_map.mpr hname), dif_neg (mt List.mem_map.mpr hid)]
  have hfree : ∀ c ∈ Repository.userAuth.created.constraints,
      (registry.accounts.map accountRow).any (c.conflicts userColumns (accountRow a)) = false := by
    intro c hc
    have hmem : c = primaryKeyOn "id" ∨ c = uniqueOn "username" := by
      change c ∈ [primaryKeyOn "id", uniqueOn "username"] at hc
      simpa using hc
    rcases hmem with rfl | rfl
    · exact hanyId
    · exact hanyUsername
  obtain ⟨db', hinsert, hholding⟩ := Holding.insert (r := .userAuth) h (parameters_bind a)
    (by simp [Repository.created, UserAuth.created, createdColumn, userParameters, PyValue.stored,
      ConfigurationRows.flagValue]) hfree
  refine .inl ⟨_, db', hadd, ?_, hinsert⟩
  rw [Represents, List.map_append, List.map_singleton]
  exact hholding

/-- A text without an encoding is not bound. -/
theorem mapM_bindParameter_unencodable {user : User} {passwordHash : PyStr}
    (h : ¬ (encodable user.id = true ∧ encodable user.username = true ∧
      encodable passwordHash = true)) :
    (userParameters user passwordHash).mapM bindParameter = .error (bindExn .unicodeEncode) := by
  unfold userParameters
  simp only [List.mapM_cons, bindParameter_str]
  by_cases hid : encodable user.id = true
  · by_cases hname : encodable user.username = true
    · have hhash : ¬ encodable passwordHash = true := fun hhash => h ⟨hid, hname, hhash⟩
      rw [if_pos hid, if_pos hname, if_neg hhash]
      rfl
    · rw [if_pos hid, if_neg hname]
      rfl
  · rw [if_neg hid]
    rfl

/-- `create_user` makes the account and inserts it. -/
theorem effect_createUser (pick : HeadChoice) (db : Database) (user : User)
    (hash : Except PyExn PyValue) :
    (Operation.createUser user hash).effect pick db = (do
      let a ← newAccount user hash
      (db.insert UserAuth.tableName userColumns (userParameters a.user a.passwordHash)).mapError
        createError) := by
  unfold newAccount
  rw [Operation.effect, serializeUser_eq]
  split_ifs with hblank
  · cases hash with
    | error e => rfl
    | ok v =>
      cases v with
      | str passwordHash =>
        simp only [checkHash]
        by_cases hprefix : (py "$argon2id$").isPrefixOf passwordHash = true
        · rw [if_pos hprefix, dif_pos hprefix]
          by_cases hencodes : encodable user.id = true ∧ encodable user.username = true ∧
              encodable passwordHash = true
          · rw [dif_pos hencodes]
            rfl
          · rw [dif_neg hencodes]
            change (db.insert UserAuth.tableName userColumns
              (userParameters user passwordHash)).mapError createError = _
            rw [Database.insert, mapM_bindParameter_unencodable hencodes]
            rfl
        · rw [if_neg hprefix, dif_neg hprefix]
          rfl
      | _ => rfl
  · rfl

/-- One attempt does to the database what it does to the registry. -/
theorem attempt_represents (pick : HeadChoice) (h : Represents registry db)
    (attempt : Registry.Attempt) : ∃ db',
      (Operation.createUser attempt.user attempt.hash).perform pick db =
        some ((registry.attempt attempt).1, db') ∧
      Represents (registry.attempt attempt).2 db' := by
  rw [perform_eq, effect_createUser]
  unfold Registry.attempt Registry.create
  cases hnew : newAccount attempt.user attempt.hash with
  | error e => exact ⟨db, rfl, h⟩
  | ok a =>
    rcases insert_account h a with ⟨registry', db', hadd, hrepresents, hinsert⟩ | ⟨e, hadd, hinsert⟩
    · simp only [bind, Except.bind, hadd, hinsert, Except.mapError]
      exact ⟨db', rfl, hrepresents⟩
    · simp only [bind, Except.bind, hadd, hinsert, Except.mapError]
      exact ⟨db, rfl, h⟩

/-- Any attempts do. -/
theorem attemptAll_represents (pick : HeadChoice) (h : Represents registry db)
    (attempts : List Registry.Attempt) : ∃ db',
      attemptAll pick attempts db = some ((registry.attemptAll attempts).1, db') ∧
      Represents (registry.attemptAll attempts).2 db' := by
  induction attempts generalizing registry db with
  | nil => exact ⟨db, rfl, h⟩
  | cons a attempts ih =>
    obtain ⟨db₁, hperform, hrepresents⟩ := attempt_represents pick h a
    obtain ⟨db₂, hrest, hrepresents'⟩ := ih hrepresents
    refine ⟨db₂, ?_, hrepresents'⟩
    rw [attemptAll, hperform]
    simp only [bind, Option.bind, hrest]
    rfl

end Refinement

section Lookup

variable {registry : Registry} {db : Database} {env : Environment} {a : Account}
  {username password : PyStr}

def Account.stored (a : Account) : ConfigurationRows.StoredUserAuthentication :=
  ⟨a.user, a.passwordHash⟩

/-- The row of an account is read as the account. -/
theorem deserialize_account (a : Account) :
    ConfigurationRows.deserializeUser (userParameters a.user a.passwordHash) = .ok a.stored := by
  refine (ConfigurationRows.userImage _ _).mpr ?_
  unfold ConfigurationRows.serializeStored
  rw [Account.stored, serializeUser_eq, if_pos ⟨a.id_nonblank, a.username_nonblank⟩]
  simp only [bind, Except.bind]
  rw [if_neg (by simp [a.argon2])]
  rfl

/-- The first row with the name is the row of the account with the name. -/
theorem find_row (accounts : List Account) (hencodes : encodable username = true) :
    (accounts.map accountRow).find?
      (fun row => valueOf userColumns row (py "username") = .text (utf8 username)) =
        (accounts.find? fun a => a.user.username = username).map accountRow := by
  rw [List.find?_map]
  congr 2
  funext a
  have hsame : utf8 a.user.username = utf8 username ↔ a.user.username = username :=
    ⟨fun h => utf8_injective a.username_encodes hencodes h, fun h => by rw [h]⟩
  simp [accountRow_username, hsame]

/-- A lookup finds the account that the registry has under the name. -/
theorem findByUsername_represents (h : Represents registry db) (username : PyStr) :
    findByUsername db username = if encodable username then
      .ok ((registry.find username).map Account.stored) else .error (bindExn .unicodeEncode) := by
  have htable : db.table? UserAuth.tableName =
      some ⟨UserAuth.created, registry.accounts.map accountRow⟩ := h.table
  have hnames : UserAuth.created.columnNames = userColumns := created_columnNames .userAuth
  unfold findByUsername
  rw [bindParameter_str]
  split_ifs with hencodes
  · simp only [bind, Except.bind, htable, hnames, find_row _ hencodes]
    change _ = Except.ok ((registry.accounts.find? _).map Account.stored)
    cases hfind : registry.accounts.find? fun a => a.user.username = username with
    | none => rfl
    | some a =>
      have hcolumns : userColumns.map (valueOf userColumns (accountRow a)) = accountRow a := rfl
      have hfetch : fetchTuple (accountRow a) = .ok (userParameters a.user a.passwordHash) :=
        (fetchTuple_ok_iff _ _).mpr ⟨fun v hv => (parameters_bind a v hv).2, rfl⟩
      simp only [Option.map_some, hcolumns, hfetch, Except.mapError, deserialize_account]
      rfl
  · rfl

/-- The admitted principals are those of the registry. -/
theorem admits_iff (h : Represents registry db) (principal : AuthenticatedPrincipal) :
    Admits (collaborators env db) username password principal ↔
      registry.authenticate env.argon2 username password = .ret principal := by
  have hreply : answer env db (.findByUsername username) =
      (findByUsername db username).map (Option.map record) := rfl
  rw [findByUsername_represents h] at hreply
  unfold Registry.authenticate
  by_cases hencodes : encodable username = true
  · rw [if_pos hencodes] at hreply
    cases hfind : registry.find username with
    | none =>
      rw [hfind] at hreply
      refine ⟨fun hadmits => ?_, fun hret => by cases hret⟩
      obtain ⟨stored, hstored, -⟩ := hadmits
      cases hreply.symm.trans hstored
    | some a =>
      rw [hfind] at hreply
      constructor
      · intro hadmits
        obtain ⟨stored, hstored, hgrants, hverified⟩ := hadmits
        cases hreply.symm.trans hstored
        obtain ⟨hactive, hid, hname⟩ := hgrants
        have hactive' : a.user.isActive = true := PyObject.bool.inj hactive
        have hverified' : env.argon2.verifyPassword password a.passwordHash = .ok (.bool true) :=
          hverified
        cases principal with
        | mk userId username _ _ =>
          cases PyObject.str.inj hid
          cases PyObject.str.inj hname
          exact if_pos ⟨hactive', hverified'⟩
      · intro hret
        dsimp only at hret
        split_ifs at hret with hgranted
        cases hret
        refine ⟨record a.stored, hreply, ⟨?_, rfl, rfl⟩, hgranted.2⟩
        exact congrArg PyObject.bool hgranted.1
  · rw [if_neg hencodes] at hreply
    rw [registry.find_unencodable hencodes]
    refine ⟨fun hadmits => ?_, fun hret => by cases hret⟩
    obtain ⟨stored, hstored, -⟩ := hadmits
    cases hreply.symm.trans hstored

theorem authenticate_cases (registry : Registry) (argon2 : Argon2) (username password : PyStr) :
    (∃ principal, registry.authenticate argon2 username password = .ret principal) ∨
      registry.authenticate argon2 username password = .raise authenticationFailed := by
  unfold Registry.authenticate
  split
  · exact .inr rfl
  · split_ifs
    · exact .inl ⟨_, rfl⟩
    · exact .inr rfl

/-- The service authenticates as the registry says. -/
theorem observed_represents (h : Represents registry db) (svc : AuthenticationService)
    (username password : PyStr) : observed svc (collaborators env db) username password =
      some (registry.authenticate env.argon2 username password, [password]) := by
  rcases observed_cases svc (collaborators env db) username password with
    ⟨principal, hadmits, hobserved⟩ | ⟨hnone, hobserved⟩
  · rw [hobserved, (admits_iff h principal).mp hadmits]
  · rcases authenticate_cases registry env.argon2 username password with ⟨principal, hret⟩ | hraise
    · exact absurd ((admits_iff h principal).mpr hret) (hnone principal)
    · rw [hobserved, hraise]

/-- An active account whose hash was made of the password is authenticated with it. -/
theorem authenticate_account (hreliable : env.Reliable) (ha : a ∈ registry.accounts)
    (hactive : a.user.isActive = true) {salt : Bytes}
    (hhash : env.argon2.hashPassword salt password = .ok a.passwordHash) :
    registry.authenticate env.argon2 a.user.username password =
      .ret ⟨a.user.id, a.user.username, a.id_nonblank, a.username_nonblank⟩ := by
  have hverified : env.argon2.verifyPassword password a.passwordHash = .ok (.bool true) := by
    have hraw : env.argon2.hash salt password = .ok a.passwordHash :=
      (mapError_ok_iff _ _ _).mp hhash
    rw [Argon2.verifyPassword, hreliable.verifies salt password _ hraw]
  rw [Registry.authenticate, Registry.find_mem ha]
  exact if_pos ⟨hactive, hverified⟩

end Lookup

section Accounts

variable {env : Environment} {db : Database} {pick : HeadChoice}

/-- The account that an attempt makes. -/
theorem newAccount_ok {user : User} {hash : Except PyExn PyValue} {a : Account}
    (h : newAccount user hash = .ok a) : a.user = user ∧ hash = .ok (.str a.passwordHash) := by
  unfold newAccount at h
  split_ifs at h
  split at h
  · cases h
  · split_ifs at h
    cases h
    exact ⟨rfl, rfl⟩
  · cases h

/-- The account that is made of a password has its hash. -/
theorem newAccount_hashed {argon2 : Argon2} {user : User} {salt : Bytes} {password : PyStr}
    {a : Account} (h : newAccount user ((argon2.hashPassword salt password).map .str) = .ok a) :
    a.user = user ∧ argon2.hashPassword salt password = .ok a.passwordHash := by
  obtain ⟨huser, hhash⟩ := newAccount_ok h
  refine ⟨huser, ?_⟩
  cases hpassword : argon2.hashPassword salt password with
  | error e =>
    rw [hpassword] at hhash
    cases hhash
  | ok passwordHash =>
    rw [hpassword] at hhash
    cases hhash
    rfl

/-- After any attempts the database answers as the registry does: the attempts were answered
so, and users are authenticated so. An active user who was created can authenticate with the
password, whatever was attempted before and after. -/
theorem accounts_refine (hreliable : env.Reliable) (pick : HeadChoice)
    (hdb : Holding .userAuth db []) (attempts : List Registry.Attempt) : ∃ db',
      attemptAll pick attempts db = some ((Registry.empty.attemptAll attempts).1, db') ∧
      (∀ svc username password, observed svc (collaborators env db') username password =
        some ((Registry.empty.attemptAll attempts).2.authenticate env.argon2 username password,
          [password])) ∧
      ∀ earlier user salt password later,
        attempts = earlier ++ ⟨user, (env.argon2.hashPassword salt password).map .str⟩ :: later →
        ((Registry.empty.attemptAll earlier).2.attempt
          ⟨user, (env.argon2.hashPassword salt password).map .str⟩).1 = .ok () →
        user.isActive = true → ∀ svc, ∃ principal,
          principal.userId = user.id ∧ principal.username = user.username ∧
          observed svc (collaborators env db') user.username password =
            some (.ret principal, [password]) := by
  have hempty : Represents .empty db := hdb
  obtain ⟨db', hattempts, hrepresents⟩ := attemptAll_represents pick hempty attempts
  refine ⟨db', hattempts, fun svc => observed_represents hrepresents svc, ?_⟩
  intro earlier user salt password later hsplit hcreated hactive svc
  obtain ⟨a, hnew, hmem⟩ := Registry.attempt_ok hcreated
  obtain ⟨rfl, hmade⟩ := newAccount_hashed hnew
  have hstays : a ∈ (Registry.empty.attemptAll attempts).2.accounts := by
    rw [hsplit, Registry.attemptAll_append]
    exact (Registry.attemptAll_prefix _ later).subset hmem
  have hgranted := authenticate_account hreliable hstays hactive hmade
  refine ⟨⟨a.user.id, a.user.username, a.id_nonblank, a.username_nonblank⟩, rfl, rfl, ?_⟩
  rw [observed_represents hrepresents svc, hgranted]

/-- A user, then one with the same id, and one with the same id and name. -/
def exampleAttempts : List Registry.Attempt :=
  let hash := (exampleEnv.argon2.hashPassword [] (py "secret")).map .str
  [⟨⟨py "u-1", py "alice", true⟩, hash⟩, ⟨⟨py "u-1", py "bob", true⟩, hash⟩,
    ⟨⟨py "u-1", py "alice", true⟩, hash⟩]

theorem example_accounts_refine : ∃ db, Holding .userAuth db [] ∧ ∃ db',
    attemptAll RecordedEvents.newest exampleAttempts db =
      some ((Registry.empty.attemptAll exampleAttempts).1, db') ∧
    (∀ svc username password, observed svc (collaborators exampleEnv db') username password =
      some ((Registry.empty.attemptAll exampleAttempts).2.authenticate exampleEnv.argon2 username
        password, [password])) ∧
    ∀ earlier user salt password later, exampleAttempts = earlier ++
        ⟨user, (exampleEnv.argon2.hashPassword salt password).map .str⟩ :: later →
      ((Registry.empty.attemptAll earlier).2.attempt
        ⟨user, (exampleEnv.argon2.hashPassword salt password).map .str⟩).1 = .ok () →
      user.isActive = true → ∀ svc, ∃ principal,
        principal.userId = user.id ∧ principal.username = user.username ∧
        observed svc (collaborators exampleEnv db') user.username password =
          some (.ret principal, [password]) := by
  have hkey : KeyFor .none .userAuth := fun hrole => by cases hrole
  obtain ⟨db, -, hholding⟩ := emptyFile_created .userAuth hkey
  exact ⟨db, hholding, accounts_refine exampleEnv_reliable RecordedEvents.newest hholding
    exampleAttempts⟩

example : (Registry.empty.attemptAll exampleAttempts).1 =
    [.ok (), .error duplicateUserId, .error duplicateUsername] := by
  decide

end Accounts

end PamMvp.AccountRegistry
