import Mathlib
import ModelRepository.Proofs.Repository.Allocation
import ModelRepository.Proofs.Server.Transfer

/-! What a server gives out of the two counters of a repository.
Identifiers and version tokens are meant to be new. Both counters are taken over from a snapshot as
they stand there, and a counter does not leave its last value. So whether a call keeps the promise
is told by the state that it meets: by the free numbers that are left, and by the version.
-/

namespace ModelRepository

open Std

-----------------------------------------------------------------------------------------
-- Free numbers
-----------------------------------------------------------------------------------------

/-- Different numbers from the counter on whose identifiers are free. -/
structure Leaves (free : String → Prop) (counter : UInt64) (numbers : List UInt64) : Prop where
  distinct : numbers.Nodup
  ahead : ∀ number ∈ numbers, counter ≤ number
  free : ∀ number ∈ numbers, free (allocatedId number)

/-- As many different free identifiers as were asked for. -/
structure Afresh (free : String → Prop) (count : Nat) (ids : List String) : Prop where
  length : ids.length = count
  distinct : ids.Nodup
  free : ∀ id ∈ ids, free id

section Free

variable {index : Index} {number free : UInt64} {numbers drawn : List UInt64} {count : Nat}

/-- The search stops at the first of the numbers that are left or before them all. -/
theorem Leaves.exists_first (leaves : Leaves (· ∉ index) number numbers) (inhabited : numbers ≠ [])
    : ∃ free, freeNumber? index number = some free ∧ ∀ other ∈ numbers, free ≤ other := by
  obtain ⟨one, member⟩ := List.exists_mem_of_ne_nil numbers inhabited
  obtain ⟨free, -, found⟩ := exists_freeNumber? (leaves.ahead one member) (leaves.free one member)
  refine ⟨free, found, fun other listed => ?_⟩
  obtain ⟨first, within, again⟩ :=
    exists_freeNumber? (leaves.ahead other listed) (leaves.free other listed)
  cases found.symm.trans again
  exact within

/-- A number that the search stops at comes before whatever is left behind it. -/
theorem Leaves.cons (found : freeNumber? index number = some free)
    (leaves : Leaves (· ∉ index) (nextCount free) drawn)
    (passable : drawn ≠ [] → free ≠ lastCount)
    : Leaves (· ∉ index) number (free :: drawn) := by
  obtain ⟨later, unindexed⟩ := freeNumber?_eq_some found
  refine ⟨List.nodup_cons.mpr ⟨fun again => ?_, leaves.distinct⟩, ?_, ?_⟩
  · have moved := lt_nextCount (passable (List.ne_nil_of_mem again))
    exact UInt64.lt_irrefl free (UInt64.lt_of_lt_of_le moved (leaves.ahead free again))
  · intro other listed
    rcases List.mem_cons.mp listed with rfl | listed
    · exact later
    · exact UInt64.le_trans later (UInt64.le_trans (le_nextCount free) (leaves.ahead other listed))
  · intro other listed
    rcases List.mem_cons.mp listed with rfl | listed
    · exact unindexed
    · exact leaves.free other listed

/-- Where enough numbers are left, as many different ones are drawn. By induction on how many: the
search stops no later than at the first of those that are left, and all others lie behind it.
-/
theorem exists_allocateFrom (leaves : Leaves (· ∉ index) number numbers)
    (enough : count ≤ numbers.length) (taken : List String)
    : ∃ drawn next,
        allocateFrom index taken number count
          = some (taken.reverse ++ drawn.map allocatedId, next)
        ∧ drawn.length = count
        ∧ Leaves (· ∉ index) number drawn := by
  induction count generalizing number numbers taken with
  | zero => exact ⟨[], number, by simp [allocateFrom], rfl, .nil, by simp, by simp⟩
  | succ count ih =>
      obtain ⟨free, found, first⟩ := leaves.exists_first (List.ne_nil_of_length_pos (by omega))
      have behind : ∀ other ∈ numbers.erase free, free < other := by
        intro other listed
        obtain ⟨differs, listed⟩ := leaves.distinct.mem_erase_iff.mp listed
        exact UInt64.lt_of_le_of_ne (first other listed) (Ne.symm differs)
      have rest : Leaves (· ∉ index) (nextCount free) (numbers.erase free) :=
        ⟨leaves.distinct.erase free, fun other listed => nextCount_le (behind other listed),
          fun other listed => leaves.free other (List.mem_of_mem_erase listed)⟩
      have length : count ≤ (numbers.erase free).length := by
        rw [List.length_erase]
        split <;> omega
      obtain ⟨drawn, next, done, counted, left⟩ := ih rest length (allocatedId free :: taken)
      refine ⟨free :: drawn, next, ?_, by simp [counted], left.cons found fun more last => ?_⟩
      · rw [allocateFrom, found]
        simpa using done
      · have drew := List.length_pos_of_ne_nil more
        obtain ⟨other, listed⟩ := List.exists_mem_of_length_pos (l := numbers.erase free) (by omega)
        have beyond := UInt64.lt_of_lt_of_le (behind other listed) (le_lastCount other)
        exact UInt64.lt_irrefl lastCount (last ▸ beyond)

end Free

/-- Behind what was issued an allocation returns free identifiers exactly if enough numbers are
left. Witness: a counter that has passed everything issued does not come back to it, and at its last
value there is one number to be left or taken.
-/
theorem Repository.allocate_afresh_iff {repository : Repository} {issued : List String}
    (passed : Passed repository.nextId issued) (count : Nat)
    : (∃ counted ids,
        repository.allocate count = .ok (counted, ids)
        ∧ Afresh (fun id => id ∉ repository.nodes ∧ id ∉ issued) count ids)
      ↔ ∃ numbers,
          numbers.length = count
          ∧ Leaves (fun id => id ∉ repository.nodes ∧ id ∉ issued) repository.nextId numbers := by
  constructor
  · rintro ⟨counted, ids, done, afresh⟩
    obtain ⟨numbers, length, rfl, draws, -⟩ := draws_of_allocate done
    exact ⟨numbers, length, afresh.distinct.of_map, fun number drawn => (draws.free number drawn).1,
      fun number drawn => afresh.free _ (List.mem_map_of_mem drawn)⟩
  · rintro ⟨numbers, rfl, leaves⟩
    have unindexed : Leaves (· ∉ repository.nodes) repository.nextId numbers :=
      ⟨leaves.distinct, leaves.ahead, fun number listed => (leaves.free number listed).1⟩
    obtain ⟨drawn, next, done, length, left⟩ := exists_allocateFrom unindexed le_rfl []
    refine ⟨{ repository with nextId := next }, drawn.map allocatedId, by simp [allocate, done],
      by simp [length],
      left.distinct.map fun _ _ => allocatedId_inj.mp, ?_⟩
    intro id member
    obtain ⟨number, listed, rfl⟩ := List.mem_map.mp member
    refine ⟨left.free number listed, fun earlier => ?_⟩
    by_cases last : repository.nextId = lastCount
    · have drew := List.length_pos_of_mem listed
      obtain ⟨other, stays⟩ := List.exists_mem_of_length_pos (l := numbers) (by omega)
      have here : number = lastCount := eq_lastCount (last ▸ left.ahead number listed)
      have there : other = lastCount := eq_lastCount (last ▸ leaves.ahead other stays)
      exact (leaves.free other stays).2 (there ▸ here ▸ earlier)
    · obtain ⟨old, below, same⟩ := passed last _ earlier
      exact UInt64.lt_irrefl number (UInt64.lt_of_lt_of_le (allocatedId_inj.mp same ▸ below)
        (left.ahead number listed))

-----------------------------------------------------------------------------------------
-- What is issued
-----------------------------------------------------------------------------------------

/-- The repository in which an operation allocates identifiers and how many, behind the check that
it may make first.
-/
def Operation.allocation? : Operation → Option (String × Nat)
  | .allocate name count => some (name, count)
  | .bulkAllocate name count => (countOfRaw count).toOption.map (name, ·)
  | _ => none

/-- The repository whose version an operation tells when it is accepted. -/
def Operation.tells? : Operation → Option String
  | .ask (.versionToken name) => some name
  | operation => operation.target?

namespace Server

/-- The identifiers that an operation allocates in the named repository. -/
def idsFrom (server : Server) (name : String) (operation : Operation) : List String :=
  match operation.allocation?, (server.perform operation).answer with
  | some (owner, _), .ok (.ids ids) => if owner = name then ids else []
  | _, _ => []

/-- The version token of the named repository that an operation tells. -/
def tokensFrom (server : Server) (name : String) (operation : Operation) : List String :=
  match operation.tells?, (server.perform operation).answer with
  | some owner, .ok (.token token) => if owner = name then [token] else []
  | _, _ => []

/-- All identifiers that a run of operations allocates in the named repository. -/
def issuedIds (server : Server) (name : String) : List Operation → List String
  | [] => []
  | operation :: rest =>
      server.idsFrom name operation ++ (server.perform operation).server.issuedIds name rest

/-- All version tokens of the named repository that a run of operations tells. -/
def issuedTokens (server : Server) (name : String) : List Operation → List String
  | [] => []
  | operation :: rest =>
      server.tokensFrom name operation ++ (server.perform operation).server.issuedTokens name rest

/-- What an operation does to a repository, the identifiers that it allocates there and the version
tokens that it tells.
-/
inductive Turn (repository : Repository) : Repository → List String → List String → Prop
  | rests {tokens} (told : ∀ token ∈ tokens, token = repository.versionToken)
    : Turn repository repository [] tokens
  | writes {request after changes} (done : repository.perform request = .ok (after, changes))
    : Turn repository after.bump [] [after.bump.versionToken]
  | allocates {count after ids} (done : repository.allocate count = .ok (after, ids))
    : Turn repository after ids []

variable {server after : Server} {name owner : String} {repository : Repository}
  {operation : Operation} {operations : List Operation} {count : Nat}

theorem perform_of_allocation (asked : operation.allocation? = some (name, count))
    : server.perform operation
      = server.quietly ((server.allocate name count).map fun result =>
          (result.1, .ids result.2)) := by
  cases operation with
  | allocate =>
      cases asked
      rfl
  | bulkAllocate owner raw =>
      cases counted : countOfRaw raw with
      | error refusal => simp [Operation.allocation?, counted, Except.toOption] at asked
      | ok number =>
          simp only [Operation.allocation?, counted, Except.toOption, Option.map_some,
            Option.some.injEq, Prod.mk.injEq] at asked
          obtain ⟨rfl, rfl⟩ := asked
          simp only [perform, bulkAllocate, counted]
  | _ => cases asked

theorem allocation?_of_request {request : Request}
    (asked : operation.request? = some (owner, request)) : operation.allocation? = none := by
  cases operation <;> first | rfl | cases asked

theorem tells?_of_request {request : Request}
    (asked : operation.request? = some (owner, request)) : operation.tells? = some owner := by
  cases operation <;> cases asked <;> rfl

theorem tells?_of_allocation (asked : operation.allocation? = some (owner, count))
    : operation.tells? = none := by
  cases operation <;> first | rfl | cases asked

/-- What tells a version without being a write is the question for it. -/
theorem eq_of_tells (unasked : operation.request? = none) (tells : operation.tells? = some name)
    : operation = .ask (.versionToken name) := by
  unfold Operation.tells? at tells
  split at tells
  · cases tells
    rfl
  · rw [Operation.target?, unasked] at tells
    cases tells

theorem getElem?_quietly {α : Type} {result : Except RepositoryError α}
    {conclude : α → Server × Answer} (served : server.repositories[name]? = some repository)
    (kept
      : ∀ value, result = .ok value → (conclude value).1.repositories[name]? = some repository)
    : (server.quietly (result.map conclude)).server.repositories[name]? = some repository := by
  cases result with
  | error refusal => exact served
  | ok value => exact kept value rfl

/-- What neither writes nor allocates leaves every repository as it is that it does not delete, by
cases on the operation.
-/
theorem getElem?_of_idle (served : server.repositories[name]? = some repository)
    (kept : operation ≠ .deleteRepository name) (unasked : operation.request? = none)
    (undrawn : operation.allocation? = none)
    : (server.perform operation).server.repositories[name]? = some repository := by
  have created {configuration : Configuration} {after : Server}
      (done : server.createRepository configuration = .ok after)
      : after.repositories[name]? = some repository := by
    obtain ⟨admitted, rfl⟩ := createRepository_eq_ok done
    exact getElem?_add served ((server.admissionError?_eq_none_iff configuration).mp admitted).2.2
  cases operation with
  | ask | subscribe | unsubscribe => exact served
  | createRepository configuration => exact getElem?_quietly served fun _ => created
  | ensureDefault =>
      refine getElem?_quietly served fun result done => ?_
      rcases ensureDefault_eq_ok done with same | new
      · rwa [same]
      · exact created new
  | deleteRepository owner =>
      refine getElem?_quietly served fun result done => ?_
      obtain ⟨-, rfl⟩ := deleteRepository_eq_ok done
      have differs : owner ≠ name := fun same => kept (same ▸ rfl)
      simpa [ExtTreeMap.getElem?_erase, differs] using served
  | importSnapshot file =>
      refine getElem?_quietly served fun result done => ?_
      obtain ⟨snapshot, -, admitted, same⟩ := importSnapshot_eq_ok done
      rw [same]
      exact getElem?_add served
        ((server.admissionError?_eq_none_iff snapshot.configuration).mp admitted).2.2
  | watch owner node observer =>
      refine getElem?_quietly served fun result done => ?_
      obtain ⟨_, -, -, rfl⟩ := watch_eq_ok done
      exact served
  | allocate => cases undrawn
  | bulkAllocate owner raw =>
      refine getElem?_quietly served fun result done => ?_
      obtain ⟨refusal, refused⟩ : ∃ refusal, countOfRaw raw = .error refusal := by
        cases counted : countOfRaw raw with
        | error refusal => exact ⟨refusal, rfl⟩
        | ok number => simp [Operation.allocation?, counted, Except.toOption] at undrawn
      simp [bulkAllocate, refused] at done
  | _ => cases unasked

/-- Every operation that does not delete a repository takes a turn on it, by cases on whether it
writes, allocates or does neither.
-/
theorem perform_turn (served : server.repositories[name]? = some repository)
    (kept : operation ≠ .deleteRepository name)
    : ∃ after,
        (server.perform operation).server.repositories[name]? = some after
        ∧ Turn repository after (server.idsFrom name operation)
            (server.tokensFrom name operation) := by
  cases asked : operation.request? with
  | some target =>
      obtain ⟨owner, request⟩ := target
      have nothing : server.idsFrom name operation = [] := by
        simp [idsFrom, allocation?_of_request asked]
      rw [nothing, tokensFrom, tells?_of_request asked]
      rcases server.perform_attempts asked with ⟨error, same⟩ | ⟨written, done, same⟩
      · rw [same]
        exact ⟨repository, served, .rests (by simp)⟩
      · obtain ⟨before, after, changes, found, accepted, rfl⟩ := write_eq_ok done
        rw [same]
        by_cases here : owner = name
        · subst here
          cases served.symm.trans found
          exact ⟨after.bump, by simp, by simpa using .writes accepted⟩
        · exact ⟨repository, by simpa [ExtTreeMap.getElem?_insert, here] using served,
            .rests (by simp [here])⟩
  | none =>
      cases drawn : operation.allocation? with
      | some target =>
          obtain ⟨owner, count⟩ := target
          have nothing : server.tokensFrom name operation = [] := by
            simp [tokensFrom, tells?_of_allocation drawn]
          rw [nothing, idsFrom, drawn, perform_of_allocation drawn]
          cases done : server.allocate owner count with
          | error refusal => exact ⟨repository, served, .rests (by simp)⟩
          | ok result =>
              obtain ⟨before, after, found, counted, same⟩ := allocate_eq_ok done
              simp only [Except.map, quietly, same]
              by_cases here : owner = name
              · subst here
                cases served.symm.trans found
                exact ⟨after, by simp, by simpa using .allocates counted⟩
              · exact ⟨repository, by simpa [ExtTreeMap.getElem?_insert, here] using served,
                  by simpa [here] using .rests (by simp)⟩
      | none =>
          refine ⟨repository, getElem?_of_idle served kept asked drawn, ?_⟩
          have nothing : server.idsFrom name operation = [] := by simp [idsFrom, drawn]
          rw [nothing]
          refine .rests fun token told => ?_
          unfold tokensFrom at told
          split at told
          · rename_i owner answered tells answer
            split at told
            · rename_i here
              subst here
              cases eq_of_tells asked tells
              simp only [perform, Server.answer, about, repository_of_found served] at answer
              cases answer
              exact List.mem_singleton.mp told
            · cases told
          · cases told

-----------------------------------------------------------------------------------------
-- Runs
-----------------------------------------------------------------------------------------

/-- The counters of a repository behind the identifiers and the version tokens that were issued: no
number is still to come, and the version that was told last is the current one.
-/
structure Numbered (repository : Repository) (ids tokens : List String) : Prop where
  passed : Passed repository.nextId ids
  versions
    : ∀ token ∈ tokens,
        ∃ version, version ≤ repository.version ∧ token = "v-" ++ toString version.toNat
  current : tokens ≠ [] → repository.versionToken ∈ tokens

/-- A turn keeps the counters behind what is issued, by cases on the turn. -/
theorem Numbered.turn {before after : Repository} {ids tokens issuedIds issuedTokens : List String}
    (numbered : Numbered before issuedIds issuedTokens) (turn : Turn before after ids tokens)
    : Numbered after (issuedIds ++ ids) (issuedTokens ++ tokens) := by
  obtain ⟨passed, versions, current⟩ := numbered
  cases turn with
  | rests told =>
      refine ⟨by rwa [List.append_nil], fun token member => ?_, fun issued => ?_⟩
      · rcases List.mem_append.mp member with earlier | new
        · exact versions token earlier
        · exact ⟨before.version, UInt64.le_refl _, told token new⟩
      · by_cases empty : issuedTokens = []
        · obtain ⟨token, member⟩ := List.exists_mem_of_ne_nil _ issued
          subst empty
          exact told token member ▸ member
        · exact List.mem_append_left _ (current empty)
  | writes done =>
      obtain ⟨-, effect⟩ := Repository.commits_of_perform done
      obtain ⟨version, nextId⟩ := effect.counters
      refine ⟨?_, fun token member => ?_, fun _ => List.mem_append_right _ List.mem_cons_self⟩
      · rw [List.append_nil]
        exact nextId ▸ passed
      · rcases List.mem_append.mp member with earlier | new
        · obtain ⟨old, within, same⟩ := versions token earlier
          refine ⟨old, UInt64.le_trans within ?_, same⟩
          rw [← version]
          exact le_nextCount _
        · exact ⟨_, UInt64.le_refl _, List.mem_singleton.mp new⟩
  | allocates done =>
      obtain ⟨numbers, -, rfl, draws, same⟩ := Repository.draws_of_allocate done
      rw [List.append_nil]
      refine ⟨draws.passed_append passed, ?_, ?_⟩ <;> rw [same]
      · exact versions
      · exact current

/-- As long as it is not deleted, a repository is served and its counters stay behind what is
issued, by induction on the operations.
-/
theorem numbered_run {ids tokens : List String}
    (served : server.repositories[name]? = some repository)
    (kept : .deleteRepository name ∉ operations) (numbered : Numbered repository ids tokens)
    : ∃ after,
        (server.run operations).repositories[name]? = some after
        ∧ Numbered after (ids ++ server.issuedIds name operations)
            (tokens ++ server.issuedTokens name operations) := by
  induction operations generalizing server repository ids tokens with
  | nil => exact ⟨repository, served, by simpa [issuedIds, issuedTokens] using numbered⟩
  | cons operation rest ih =>
      obtain ⟨first, later⟩ := not_or.mp (List.mem_cons.not.mp kept)
      obtain ⟨after, found, turn⟩ := perform_turn served (Ne.symm first)
      rw [issuedIds, issuedTokens, ← List.append_assoc, ← List.append_assoc]
      exact ih found later (numbered.turn turn)

-----------------------------------------------------------------------------------------
-- Calls
-----------------------------------------------------------------------------------------

/-- An allocation answers with the identifiers that its repository allocates. -/
theorem answer_of_allocation (served : server.repositories[name]? = some repository)
    (asked : operation.allocation? = some (name, count))
    : (server.perform operation).answer
      = (repository.allocate count).map fun result => .ids result.2 := by
  simp only [perform_of_allocation asked, allocate, repository_of_found served]
  cases repository.allocate count <;> rfl

/-- An accepted write answers with the token of the next version. -/
theorem token_of_write {token : String} (served : server.repositories[name]? = some repository)
    (asked : operation.target? = some name)
    (accepted : (server.perform operation).answer = .ok (.token token))
    : token = "v-" ++ toString (nextCount repository.version).toNat := by
  obtain ⟨⟨owner, request⟩, requested, rfl⟩ := Option.map_eq_some_iff.mp asked
  rcases server.perform_attempts requested with ⟨error, same⟩ | ⟨written, done, same⟩
  · rw [same] at accepted
    cases accepted
  · obtain ⟨before, after, changes, found, performed, rfl⟩ := write_eq_ok done
    cases served.symm.trans found
    obtain ⟨-, effect⟩ := Repository.commits_of_perform performed
    rw [same] at accepted
    cases accepted
    simp only [Repository.versionToken, Repository.bump, effect.counters.1]

/-- Behind what was told the next version is a new one exactly if the current one is not the last or
nothing was told.
-/
theorem Numbered.next_new_iff {ids tokens : List String}
    (numbered : Numbered repository ids tokens)
    : "v-" ++ toString (nextCount repository.version).toNat ∉ tokens
      ↔ repository.version ≠ lastCount ∨ tokens = [] := by
  constructor
  · intro new
    by_contra worn
    obtain ⟨last, issued⟩ := not_or.mp worn
    have stays : nextCount repository.version = repository.version := by
      rw [not_ne_iff.mp last]
      rfl
    rw [stays] at new
    exact new (numbered.current issued)
  · rintro (passable | empty) told
    · obtain ⟨old, within, same⟩ := numbered.versions _ told
      have again : nextCount repository.version = old := numeral_inj same
      exact UInt64.lt_irrefl old (UInt64.lt_of_le_of_lt within (again ▸ lt_nextCount passable))
    · simp [empty] at told

/-- Whatever file a repository was imported from and whatever operations have followed, it is served
unless somebody deleted it. An operation that allocates there answers with as many different
identifiers as it asks for, none of them indexed or returned since the import, exactly if so many
numbers are left from the counter on. The token of an accepted write was not told since the import
exactly if the version is not the last one or no token was told.
-/
theorem issues_afresh_iff {server start : Server} {file : Binary.Bytes} {name : String}
    (imported : server.importSnapshot file = .ok (start, name)) (operations : List Operation)
    (kept : .deleteRepository name ∉ operations)
    : ∃ repository,
        (start.run operations).repositories[name]? = some repository
        ∧ (∀ operation count,
            operation.allocation? = some (name, count)
            → let free := fun id =>
                id ∉ repository.nodes ∧ id ∉ start.issuedIds name operations
              (∃ ids,
                  ((start.run operations).perform operation).answer = .ok (.ids ids)
                  ∧ Afresh free count ids)
              ↔ ∃ numbers, numbers.length = count ∧ Leaves free repository.nextId numbers)
        ∧ ∀ operation token,
            operation.target? = some name
            → ((start.run operations).perform operation).answer = .ok (.token token)
            → (token ∉ start.issuedTokens name operations
              ↔ repository.version ≠ lastCount ∨ start.issuedTokens name operations = []) := by
  obtain ⟨snapshot, -, -, same⟩ := importSnapshot_eq_ok imported
  cases same
  have served : (server.add (.ofSnapshot snapshot)).repositories[snapshot.configuration.name]?
      = some (.ofSnapshot snapshot) :=
    ExtTreeMap.getElem?_insert_self
  have unused : Numbered (.ofSnapshot snapshot) [] [] := ⟨by simp [Passed], by simp, by simp⟩
  obtain ⟨repository, found, numbered⟩ := numbered_run served kept unused
  refine ⟨repository, found, fun operation count asked => ?_,
    fun operation token asked accepted => ?_⟩
  · refine Iff.trans ?_ (Repository.allocate_afresh_iff numbered.passed count)
    rw [answer_of_allocation found asked]
    constructor
    · rintro ⟨ids, answered, afresh⟩
      cases done : repository.allocate count with
      | error refusal => simp [done, Except.map] at answered
      | ok result =>
          simp only [done, Except.map, Except.ok.injEq, Answer.ids.injEq] at answered
          exact ⟨result.1, ids, by rw [← answered], afresh⟩
    · rintro ⟨counted, ids, done, afresh⟩
      exact ⟨ids, by rw [done]; rfl, afresh⟩
  · rw [token_of_write found asked accepted]
    exact numbered.next_new_iff

/-- Tries to store a root that is no partition and allocates identifiers. -/
def drafting : List Operation :=
  [ .store "tidy" [.withChildren "annex" none []],
    .bulkAllocate "tidy" 2 ]

/-- Behind these operations on an imported repository there are numbers left for two more. -/
theorem handmade_issues_afresh
    : ∃ start repository,
        importSnapshot {} (SnapshotFile.encode handmade) = .ok (start, "tidy")
        ∧ (start.run drafting).repositories["tidy"]? = some repository
        ∧ ∃ ids,
            ((start.run drafting).perform (.allocate "tidy" 2)).answer = .ok (.ids ids)
            ∧ Afresh
                (fun id => id ∉ repository.nodes ∧ id ∉ start.issuedIds "tidy" drafting) 2 ids := by
  have small : (SnapshotFile.encode handmade).length ≤ SnapshotFile.maxSize := by decide +kernel
  have admitted : ({} : Server).admissionError? handmade.configuration = none := by decide +kernel
  have imported : importSnapshot {} (SnapshotFile.encode handmade)
      = .ok (({} : Server).add (.ofSnapshot handmade), "tidy") :=
    importSnapshot_encode small admitted
  have kept : .deleteRepository "tidy" ∉ drafting := by simp [drafting]
  have facts : ∀ repository
      ∈ ((({} : Server).add (.ofSnapshot handmade)).run drafting).repositories["tidy"]?,
      repository.nextId = 3
      ∧ allocatedId 3 ∉ repository.nodes
      ∧ allocatedId 4 ∉ repository.nodes := by
    decide +kernel
  have issued : (({} : Server).add (.ofSnapshot handmade)).issuedIds "tidy" drafting
      = ["id-1", "id-2"] := by
    decide +kernel
  obtain ⟨repository, served, allocates, -⟩ := issues_afresh_iff imported drafting kept
  refine ⟨_, repository, imported, served, (allocates (.allocate "tidy" 2) 2 rfl).mpr ?_⟩
  obtain ⟨counter, third, fourth⟩ := facts repository served
  rw [issued, counter]
  refine ⟨[3, 4], rfl, by decide, ?_, ?_⟩
  · simp only [List.forall_mem_cons]
    exact ⟨by decide, by decide, by simp⟩
  · simp only [List.forall_mem_cons]
    exact ⟨⟨third, by decide +kernel⟩, ⟨fourth, by decide +kernel⟩, by simp⟩

-- A snapshot whose counters have come to their last values.

def worn : Snapshot :=
  { configuration := { name := "worn" }
    partitions := ["root"]
    nodes := [.withChildren "root" none []]
    version := lastCount
    nextId := lastCount }

/-- A store of a node as it stands. -/
def restoring : Operation :=
  .store "worn" [.withChildren "root" none []]

/-- From counters at their last values the same identifier is returned twice by one call, and two
accepted writes return the same token.
-/
theorem worn_repeats
    : ∃ start,
        importSnapshot {} (SnapshotFile.encode worn) = .ok (start, "worn")
        ∧ (start.perform (.bulkAllocate "worn" 2)).answer
          = .ok (.ids ["id-18446744073709551615", "id-18446744073709551615"])
        ∧ start.issuedTokens "worn" [restoring] = ["v-18446744073709551615"]
        ∧ ((start.run [restoring]).perform restoring).answer
          = .ok (.token "v-18446744073709551615") := by
  have small : (SnapshotFile.encode worn).length ≤ SnapshotFile.maxSize := by decide +kernel
  have admitted : ({} : Server).admissionError? worn.configuration = none := by decide +kernel
  have imported : importSnapshot {} (SnapshotFile.encode worn)
      = .ok (({} : Server).add (.ofSnapshot worn), "worn") :=
    importSnapshot_encode small admitted
  have served : (({} : Server).add (.ofSnapshot worn)).repositories["worn"]?
      = some (.ofSnapshot worn) :=
    ExtTreeMap.getElem?_insert_self
  have drawn : allocateFrom (Repository.ofSnapshot worn).nodes []
      (Repository.ofSnapshot worn).nextId 2
      = some (["id-18446744073709551615", "id-18446744073709551615"], lastCount) := by
    decide +kernel
  have asked : (Operation.bulkAllocate "worn" 2).allocation? = some ("worn", 2) := rfl
  refine ⟨_, imported, ?_, by decide +kernel, rfl⟩
  rw [answer_of_allocation served asked, Repository.allocate, drawn]
  rfl

end Server

end ModelRepository
