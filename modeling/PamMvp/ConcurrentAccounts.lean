import PamMvp.AccountRegistry
import PamMvp.ConcurrentOpening
import PamMvp.PoolComposition

/-!
# Creating accounts in several processes

Any number of processes open the authentication database, an empty file at first, and
create users in it. Their calls interleave in every order, calls fail and processes crash.
The database still is a registry of accounts: those of the calls of `create_user` that
committed, in the order of their commits.
-/
namespace PamMvp.ConcurrentAccounts
open PythonText DomainModel SqliteValues InteractionPrograms SharedPrograms UserAuthentication
  TransactionPools TableConstraints EnforcedUniqueness CreatedTables RuntimeFiles AccountRegistry
  ConcurrentOpening PoolComposition
open AdapterSchemas hiding Ending
open ProvisionedRecords hiding answer
open ProvisionedAccess (exampleEnv exampleEnv_reliable)

/-- What a process does with the authentication database. -/
inductive Task where
  | construct
  | createUser (attempt : Registry.Attempt)

def Task.program : Task → Sql Unit
  | .construct => UserAuth.construct
  | .createUser attempt => EnforcedUniqueness.createUser attempt.user attempt.hash

def Task.attempt : Task → Option Registry.Attempt
  | .construct => none
  | .createUser attempt => some attempt

/-- The processes of one authentication database, from an empty file on. -/
abbrev AccountRuns {W : Type} [DecidableEq W] (key : PyValue)
    (trace : List (Label sqlSignature W Task Unit))
    (pool : Pool sqlSignature W (Store W Database) Task Unit) : Prop :=
  PoolRuns Task.program (Shares (serveSession key)) Store.crash ⟨emptyFile, none⟩ trace pool

/-- The attempt makes this account. -/
def Makes (attempt : Registry.Attempt) (a : Account) : Prop :=
  newAccount attempt.user attempt.hash = .ok a

section Runs

variable {key : PyValue} {db : Database} {d d' : Database}

theorem inserted_ended (table : PyStr) (columns : List PyStr) (values : List PyValue) :
    EnsuresOn (Serves key) (connected (inTransaction (ask (.insert table columns values))))
      ⟨db, none⟩ (Ended db fun db' => db.insert table columns values = .ok db') := by
  apply connected_ended
  have hinsert : EnsuresOn (Serves key) (ask (.insert table columns values)) ⟨db, none⟩
      (Inside db fun _ v => db.insert table columns values = .ok v) := by
    refine ensuresOn_perform (fun b c' hserve => ?_) fun e c' hserve => serves_error hserve
    have hanswer := serves_ok hserve
    simp only [answer, Connection.visible, Option.getD_none] at hanswer
    split at hanswer
    · cases hanswer
    · rename_i v hinserted
      cases hanswer
      exact ⟨v, rfl, hinserted⟩
  refine EnsuresOn.tryExcept (P := AdapterSchemas.Ending db _) ?_ (fun a c' h => h) ?_
  · refine hinsert.bind (fun a c' h => ?_) fun e c' h => h
    obtain ⟨v, rfl, hinserted⟩ := h
    exact commit_ending hinserted
  · intro e c' h
    refine EnsuresOn.bind (P := fun _ c'' => c''.committed = db) ?_ (fun a c'' hc => ?_) ?_
    · refine ensuresOn_perform (fun b c'' hserve => ?_) fun e' c'' hserve => ?_
      · have hanswer := serves_ok hserve
        simp only [answer, Prod.mk.injEq] at hanswer
        rw [← hanswer.2]
        exact h
      · exact (serves_error hserve).trans h
    · exact ensuresOn_raise (S := sqlSignature) e hc
    · exact fun e' c'' hc => hc

/-- A `create_user` that returns has inserted the account of its user. -/
theorem createUser_run {attempt : Registry.Attempt} {u : Unit}
    (h : RunsOn (serveSession key) (Task.createUser attempt).program ⟨d, none⟩ (.ret u)
      ⟨d', none⟩) :
    ∃ a, Makes attempt a ∧
      d.insert UserAuth.tableName userColumns (userParameters a.user a.passwordHash) = .ok d' := by
  have hended : EnsuresOn (Serves key) (EnforcedUniqueness.createUser attempt.user attempt.hash)
      ⟨d, none⟩ (Ended d fun db' =>
        (Operation.createUser attempt.user attempt.hash).effect (fun _ => none) d = .ok db') := by
    unfold EnforcedUniqueness.createUser Operation.effect
    cases hfields : ConfigurationRows.serializeUser attempt.user with
    | error e => exact ensuresOn_raise (S := sqlSignature) e rfl
    | ok fields =>
      cases hhash : checkHash attempt.hash with
      | error e => exact ensuresOn_raise (S := sqlSignature) e rfl
      | ok encodedHash =>
        refine EnsuresOn.tryExcept (inserted_ended UserAuth.tableName userColumns
          (userParameters attempt.user encodedHash)) (fun u c' h => ?_) fun e c' h => ?_
        · obtain ⟨db', hsame, hinsert⟩ := h
          refine ⟨db', hsame, ?_⟩
          simp [hfields, hhash, hinsert, Except.mapError, bind, Except.bind]
        · exact ensuresOn_raise (S := sqlSignature) _ h
  obtain ⟨db', hsame, heffect⟩ := hended _ _ (runsOn_connection h)
  cases hsame
  rw [effect_createUser, except_bind_ok_iff] at heffect
  obtain ⟨a, hnew, hinsert⟩ := heffect
  exact ⟨a, hnew, (mapError_ok_iff _ _ _).mp hinsert⟩

/-- The file is empty, or its table is that of the registry. -/
def Records (registry : Registry) (d : Database) : Prop :=
  registry = .empty ∧ d = emptyFile ∨ Represents registry d

/-- A constructor makes the table of the empty registry, and leaves that of any other as it
is. -/
theorem construct_records {registry : Registry} (h : Records registry d)
    (hopened : Opened .userAuth d d') : Represents registry d' := by
  obtain ⟨t, htable, haccepts, hversion, hold⟩ := hopened.table
  rcases h with ⟨rfl, rfl⟩ | hrepresents
  · rcases hold with hold | ⟨-, rfl⟩
    · cases hold
    · exact ⟨htable, hversion⟩
  · rcases hold with hold | ⟨hnone, -⟩
    · rw [hrepresents.table] at hold
      cases hold
      exact ⟨htable, hversion⟩
    · rw [hrepresents.table] at hnone
      cases hnone

/-- Where an account was inserted, the registry had room for it. -/
theorem insert_records {registry : Registry} (h : Records registry d) {a : Account}
    (hinsert : d.insert UserAuth.tableName userColumns (userParameters a.user a.passwordHash) =
      .ok d') :
    ∃ registry', Represents registry' d' ∧ registry'.accounts = registry.accounts ++ [a] := by
  rcases h with ⟨rfl, rfl⟩ | hrepresents
  · obtain ⟨t, _, _, htable, -⟩ := insert_ok hinsert
    cases htable
  · rcases insert_account hrepresents a with ⟨registry', db', hadd, hrepresents', hinserted⟩ |
      ⟨e, -, hrefused⟩
    · rw [hinsert] at hinserted
      cases hinserted
      refine ⟨registry', hrepresents', ?_⟩
      unfold Registry.add at hadd
      split_ifs at hadd
      cases hadd
      rfl
    · rw [hinsert] at hrefused
      cases hrefused

theorem forall₂_mem {α β : Type} {R : α → β → Prop} {as : List α} {bs : List β}
    (h : List.Forall₂ R as bs) {a : α} (ha : a ∈ as) : ∃ b ∈ bs, R a b := by
  induction h with
  | nil => cases ha
  | @cons a' b as bs hR _ ih =>
    rcases List.mem_cons.mp ha with rfl | ha
    · exact ⟨b, List.mem_cons_self, hR⟩
    · obtain ⟨b', hb', hR'⟩ := ih ha
      exact ⟨b', List.mem_cons_of_mem _ hb', hR'⟩

/-- One task after the other, each adds its account to the registry. -/
theorem executes_records {log : List Task} {registry : Registry} (hd : Records registry d)
    (h : Executes (serveSession key) Task.program d log d') :
    ∃ registry', Records registry' d' ∧
      (Represents registry d ∨ log ≠ [] → Represents registry' d') ∧
      ∃ accounts, registry'.accounts = registry.accounts ++ accounts ∧
        List.Forall₂ Makes (log.filterMap Task.attempt) accounts := by
  induction h generalizing registry with
  | nil d =>
    refine ⟨registry, hd, fun h => ?_, [], (List.append_nil _).symm, .nil⟩
    exact h.resolve_right fun hnil => hnil rfl
  | @cons d d₁ d' t u log hrun _ ih =>
    have hstep : ∃ registry₁ made, Represents registry₁ d₁ ∧
        registry₁.accounts = registry.accounts ++ made ∧
          List.Forall₂ Makes t.attempt.toList made := by
      cases t with
      | construct =>
        refine ⟨registry, [], ?_, (List.append_nil _).symm, .nil⟩
        exact construct_records hd (construct_run (r := .userAuth) hrun)
      | createUser attempt =>
        obtain ⟨a, hmakes, hinsert⟩ := createUser_run hrun
        obtain ⟨registry₁, hrepresents, haccounts⟩ := insert_records hd hinsert
        exact ⟨registry₁, [a], hrepresents, haccounts, .cons hmakes .nil⟩
    obtain ⟨registry₁, made, hrepresents, hmade, hmakes⟩ := hstep
    obtain ⟨registry', hrecords, hstays, accounts, haccounts, hrest⟩ := ih (.inr hrepresents)
    refine ⟨registry', hrecords, fun _ => hstays (.inl hrepresents), made ++ accounts, ?_, ?_⟩
    · rw [haccounts, hmade, List.append_assoc]
    · have hlog : (t :: log).filterMap Task.attempt =
          t.attempt.toList ++ log.filterMap Task.attempt := by
        cases hattempt : t.attempt <;> simp [hattempt]
      rw [hlog]
      exact List.rel_append hmakes hrest

end Runs

section Accounts

variable {W : Type} [DecidableEq W] {key : PyValue}
  {trace : List (Label sqlSignature W Task Unit)}
  {pool : Pool sqlSignature W (Store W Database) Task Unit}

omit [DecidableEq W] in
/-- Each task opens one transaction. -/
theorem task_single (t : Task) : SingleTransaction sqlKind t.program := by
  cases t with
  | construct => exact construct_single .userAuth
  | createUser attempt => exact createUser_single attempt.user attempt.hash

/-- The database is at any time a registry of the accounts that were committed, in the order
of the commits; a constructor that returned has left its table, and a call of `create_user`
that returned its account, with which an active user can authenticate from then on. -/
theorem accounts_interleave (h : AccountRuns key trace pool) : ∃ registry : Registry,
    List.Forall₂ Makes ((commitLog sqlKind trace).filterMap Task.attempt) registry.accounts ∧
    Records registry pool.shared.committed ∧
    (∀ w t past u, .returned w t past u ∈ trace → Represents registry pool.shared.committed) ∧
    (∀ w attempt past u, .returned w (.createUser attempt) past u ∈ trace →
      ∃ a ∈ registry.accounts, Makes attempt a) ∧
    ∀ w user past u, ∀ env : Environment, env.Reliable → ∀ salt password,
      .returned w (.createUser ⟨user, (env.argon2.hashPassword salt password).map .str⟩) past u ∈
        trace → user.isActive = true → ∀ svc, ∃ principal,
          principal.userId = user.id ∧ principal.username = user.username ∧
          observed svc (collaborators env pool.shared.committed) user.username password =
            some (.ret principal, [password]) := by
  obtain ⟨hserial, hfinished⟩ :=
    serializable (serveSession_transactional key) task_single h
  have hempty : Records .empty emptyFile := .inl ⟨rfl, rfl⟩
  obtain ⟨registry, hrecords, hstays, accounts, haccounts, hmakes⟩ :=
    executes_records hempty hserial.history
  have hall : registry.accounts = accounts := haccounts
  have hreturned (w : W) (t : Task) (past : List (Event sqlSignature)) (u : Unit)
      (hmem : .returned w t past u ∈ trace) : t ∈ commitLog sqlKind trace := by
    cases hfinished _ hmem t _ (.returned w t past u) with
    | returned hlog hearlier hrun hlater =>
      rw [hlog]
      exact List.mem_append_right _ List.mem_cons_self
  have htable (w : W) (t : Task) (past : List (Event sqlSignature)) (u : Unit)
      (hmem : .returned w t past u ∈ trace) : Represents registry pool.shared.committed :=
    hstays (.inr (List.ne_nil_of_mem (hreturned w t past u hmem)))
  have hmade (w : W) (attempt : Registry.Attempt) (past : List (Event sqlSignature)) (u : Unit)
      (hmem : .returned w (.createUser attempt) past u ∈ trace) :
      ∃ a ∈ registry.accounts, Makes attempt a := by
    have hattempt : attempt ∈ (commitLog sqlKind trace).filterMap Task.attempt :=
      List.mem_filterMap.mpr ⟨_, hreturned w _ past u hmem, rfl⟩
    rw [hall]
    exact forall₂_mem hmakes hattempt
  refine ⟨registry, hall ▸ hmakes, hrecords, htable, hmade, ?_⟩
  intro w user past u env hreliable salt password hmem hactive svc
  obtain ⟨a, ha, hmakes⟩ := hmade w _ past u hmem
  obtain ⟨rfl, hraw⟩ := newAccount_hashed hmakes
  refine ⟨⟨a.user.id, a.user.username, a.id_nonblank, a.username_nonblank⟩, rfl, rfl, ?_⟩
  rw [observed_represents (htable w _ past u hmem) svc,
    authenticate_account hreliable ha hactive hraw]

/-- One process opens the file. Then two create the same user, and the second is refused. -/
def exampleAccounts : List (Label sqlSignature Bool Task Unit) ×
    Pool sqlSignature Bool (Store Bool Database) Task Unit :=
  let create : Task := .createUser ⟨⟨py "u-1", py "alice", true⟩,
    (exampleEnv.argon2.hashPassword [] (py "secret")).map .str⟩
  runSchedule Task.program (lockedAnswer .none)
    ([(true, some .construct)] ++ List.replicate 10 (true, none) ++
      [(true, some create), (false, some create)] ++
      (List.replicate 6 [(true, none), (false, none)]).flatten)
    ([], ⟨⟨emptyFile, none⟩, fun _ => none⟩)

theorem example_accounts_interleave :
    (∃ registry : Registry,
      List.Forall₂ Makes ((commitLog sqlKind exampleAccounts.1).filterMap Task.attempt)
        registry.accounts ∧
      Records registry exampleAccounts.2.shared.committed ∧
      (∀ w t past u, .returned w t past u ∈ exampleAccounts.1 →
        Represents registry exampleAccounts.2.shared.committed) ∧
      (∀ w attempt past u, .returned w (.createUser attempt) past u ∈ exampleAccounts.1 →
        ∃ a ∈ registry.accounts, Makes attempt a) ∧
      ∀ w user past u, ∀ env : Environment, env.Reliable → ∀ salt password,
        .returned w (.createUser ⟨user, (env.argon2.hashPassword salt password).map .str⟩) past
          u ∈ exampleAccounts.1 → user.isActive = true → ∀ svc, ∃ principal,
            principal.userId = user.id ∧ principal.username = user.username ∧
            observed svc (collaborators env exampleAccounts.2.shared.committed) user.username
              password = some (.ret principal, [password])) ∧
    (commitLog sqlKind exampleAccounts.1).length = 2 := by
  have hruns : AccountRuns .none exampleAccounts.1 exampleAccounts.2 :=
    runSchedule_runs (fun w s c => lockedAnswer_shares w s c) _ .nil
  exact ⟨accounts_interleave hruns, by decide +kernel⟩

end Accounts

end PamMvp.ConcurrentAccounts
