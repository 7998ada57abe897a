import EaQuant.Core.Identity
import EaQuant.Core.Time
import EaQuant.Library.JsonLoads

/-!
# The operator kill switch

`risk/kill_switch.py`: the authority that an operator halts and resumes by scope, its canonical
bytes, and the authority that a restart restores from them. The times of a document are written in
UTC and read back without a zone.

A call changes an authority or fails or does nothing (`effect`). What an authority shows is what the
changes of its scopes say (`Tracks`), over every run of calls and restarts (`tracks_run`). A restored
authority is the authority without the zones of its change times (`restore_canonicalBytes`).
-/

namespace EaQuant.KillSwitch

open Checked

/-! ### Values -/

/-- An `OperatorKillSwitchError`. -/
structure OperatorKillSwitchError where
  code : OutcomeCode
  message : String
  deriving DecidableEq

inductive KillSwitchScope
  | strategy
  | account
  | global
  deriving DecidableEq

def KillSwitchScope.value : KillSwitchScope → String
  | .strategy => "strategy"
  | .account => "account"
  | .global => "global"

inductive KillSwitchState
  | active
  | halted
  deriving DecidableEq

def KillSwitchState.value : KillSwitchState → String
  | .active => "active"
  | .halted => "halted"

structure ScopeControl where
  scope : KillSwitchScope
  state : KillSwitchState
  reason : String
  changedAt : Option OffsetDatetime
  deriving DecidableEq

/-- An authority: its run, its revision and the control of every scope. -/
@[ext] structure OperatorKillSwitchAuthority where
  runId : RunId
  revision : ℕ
  scopes : KillSwitchScope → ScopeControl

/-! ### Arguments -/

/-- The characters that `str.strip` removes. -/
def isStripped (character : Char) : Bool :=
  let code := character.toNat
  (0x09 ≤ code && code ≤ 0x0d) || (0x1c ≤ code && code ≤ 0x20) || code = 0x85 || code = 0xa0 ||
    code = 0x1680 || (0x2000 ≤ code && code ≤ 0x200a) || code = 0x2028 || code = 0x2029 ||
    code = 0x202f || code = 0x205f || code = 0x3000

/-- `_require_reason`. -/
def requireReason (reason : String) : Except OperatorKillSwitchError Unit := do
  require (reason.toList.all isStripped = false)
    ⟨.outOfRange, "kill-switch reason must be non-empty"⟩
  require (reason.utf8ByteSize ≤ 1024)
    ⟨.outOfRange, "kill-switch reason exceeds the byte bound"⟩

/-- `_require_changed_at`: a time with the offset of UTC is kept as it is. -/
def requireChangedAt (value : OffsetDatetime) : Except OperatorKillSwitchError OffsetDatetime := do
  require (value.utcOffset = some 0) ⟨.outOfRange, "changed_at must be timezone-aware UTC"⟩
  pure value

/-! ### Transitions -/

namespace OperatorKillSwitchAuthority

variable (authority : OperatorKillSwitchAuthority)

def isHalted (scope : KillSwitchScope) : Bool := (authority.scopes scope).state = .halted

/-- The next authority, with the control of one scope replaced. -/
def record (control : ScopeControl) : OperatorKillSwitchAuthority where
  runId := authority.runId
  revision := authority.revision + 1
  scopes := Function.update authority.scopes control.scope control

def halt (scope : KillSwitchScope) (reason : String) (changedAt : OffsetDatetime) :
    Except OperatorKillSwitchError (ScopeControl × OperatorKillSwitchAuthority) := do
  requireReason reason
  let changedAt ← requireChangedAt changedAt
  let control := authority.scopes scope
  if control.state = .halted then pure (control, authority)
  else
    let control : ScopeControl := ⟨scope, .halted, reason, some changedAt⟩
    pure (control, authority.record control)

def resume (scope : KillSwitchScope) (reason : String) (changedAt : OffsetDatetime) :
    Except OperatorKillSwitchError (ScopeControl × OperatorKillSwitchAuthority) := do
  requireReason reason
  let changedAt ← requireChangedAt changedAt
  require ((authority.scopes scope).state = .halted)
    ⟨.conflictingId, "resume requires a halted scope"⟩
  let control : ScopeControl := ⟨scope, .active, reason, some changedAt⟩
  pure (control, authority.record control)

end OperatorKillSwitchAuthority

/-- `create_operator_kill_switch_authority`. -/
def create (runId : RunId) : OperatorKillSwitchAuthority where
  runId := runId
  revision := 0
  scopes := fun scope ↦ ⟨scope, .active, "", none⟩

/-! ### Documents -/

def SCHEMA : String := "ea.paper-kill-switch.v1"

/-- `_scope_document`, its keys in order. -/
def scopeDocument (control : ScopeControl) : List (String × Json) :=
  [("changed_at", control.changedAt.elim .null fun time ↦ .text time.fields.text),
    ("reason", .text control.reason),
    ("state", .text control.state.value)]

def scopesDocument (authority : OperatorKillSwitchAuthority) : List (String × Json) :=
  [("account", .object (scopeDocument (authority.scopes .account))),
    ("global", .object (scopeDocument (authority.scopes .global))),
    ("strategy", .object (scopeDocument (authority.scopes .strategy)))]

def document (authority : OperatorKillSwitchAuthority) : List (String × Json) :=
  [("revision", .int authority.revision),
    ("run_id", .text authority.runId.value),
    ("schema", .text SCHEMA),
    ("scopes", .object (scopesDocument authority))]

/-- `canonical_kill_switch_bytes`. -/
def canonicalBytes (authority : OperatorKillSwitchAuthority) : List UInt8 :=
  (Json.object (document authority)).bytes

/-! ### Restoring -/

def conflict (message : String) : OperatorKillSwitchError := ⟨.conflictingId, message⟩

/-- `KillSwitchState(value)`. -/
def parseState : Option Json → Except OperatorKillSwitchError KillSwitchState
  | some (.text "active") => .ok .active
  | some (.text "halted") => .ok .halted
  | _ => .error (conflict "kill-switch scope state conflicts")

def parseReason : Option Json → Except OperatorKillSwitchError String
  | some (.text reason) => .ok reason
  | _ => .error (conflict "kill-switch reason conflicts")

/-- The change time of a scope: `strptime` gives it no zone. -/
def parseChangedAt (state : KillSwitchState) :
    Option Json → Except OperatorKillSwitchError (Option OffsetDatetime)
  | none | some .null => do
    require (state = .active) (conflict "halted scope requires a change time")
    pure none
  | some (.text changedAt) => do
    let fields ← demand (Datetime.strptime changedAt.toList)
      (conflict "kill-switch change time conflicts")
    pure (some ⟨fields, none⟩)
  | _ => .error (conflict "kill-switch change time conflicts")

/-- The control of one scope of a document. -/
def parseScope (rawScopes : List (String × Json)) (scope : KillSwitchScope) :
    Except OperatorKillSwitchError ScopeControl := do
  let raw ← demand (Json.membersOf (Json.dictGet rawScopes scope.value))
    (conflict "kill-switch scope record conflicts")
  require (Json.dictKeysAre raw ["state", "reason", "changed_at"])
    (conflict "kill-switch scope record conflicts")
  let state ← parseState (Json.dictGet raw "state")
  let reason ← parseReason (Json.dictGet raw "reason")
  let changedAt ← parseChangedAt state (Json.dictGet raw "changed_at")
  pure ⟨scope, state, reason, changedAt⟩

/-- `restore_operator_kill_switch_authority`. -/
def restore (runId : RunId) (payload : List UInt8) :
    Except OperatorKillSwitchError OperatorKillSwitchAuthority := do
  let value ← demand (Json.loadsBytes payload) (conflict "kill-switch payload is malformed JSON")
  let document ← demand (Json.membersOf (some value)) (conflict "kill-switch schema conflicts")
  require (Json.textOf (Json.dictGet document "schema") = some SCHEMA)
    (conflict "kill-switch schema conflicts")
  require (Json.textOf (Json.dictGet document "run_id") = some runId.value)
    (conflict "kill-switch identity conflicts")
  let revision ← demand (Json.intOf (Json.dictGet document "revision"))
    (conflict "kill-switch identity conflicts")
  require (0 ≤ revision) ⟨.outOfRange, "kill-switch revision must be non-negative"⟩
  let rawScopes ← demand (Json.membersOf (Json.dictGet document "scopes"))
    (conflict "kill-switch scope set conflicts")
  require (Json.dictKeysAre rawScopes ["strategy", "account", "global"])
    (conflict "kill-switch scope set conflicts")
  let strategy ← parseScope rawScopes .strategy
  let account ← parseScope rawScopes .account
  let global ← parseScope rawScopes .global
  pure {
    runId := runId
    revision := revision.toNat
    scopes := fun
      | .strategy => strategy
      | .account => account
      | .global => global }

/-! ### Runs -/

/-- A call on an authority, or a restart: the authority that is restored for a run from the
canonical bytes replaces it. -/
inductive Call
  | halt (scope : KillSwitchScope) (reason : String) (changedAt : OffsetDatetime)
  | resume (scope : KillSwitchScope) (reason : String) (changedAt : OffsetDatetime)
  | restart (runId : RunId)

/-- The authority after a call: a call that raises leaves it as it was. -/
def step (authority : OperatorKillSwitchAuthority) : Call → OperatorKillSwitchAuthority
  | .halt scope reason changedAt => commit authority (authority.halt scope reason changedAt)
  | .resume scope reason changedAt => commit authority (authority.resume scope reason changedAt)
  | .restart runId =>
    match restore runId (canonicalBytes authority) with
    | .ok restored => restored
    | .error _ => authority

def run (authority : OperatorKillSwitchAuthority) (calls : List Call) :
    OperatorKillSwitchAuthority :=
  calls.foldl step authority

/-! ### What restarts keep -/

namespace OperatorKillSwitchAuthority

variable {authority : OperatorKillSwitchAuthority}

/-- Every control is the one of its scope, and a scope without a change time is active. -/
structure Sound (authority : OperatorKillSwitchAuthority) : Prop where
  keyed : ∀ scope, (authority.scopes scope).scope = scope
  timed : ∀ scope, (authority.scopes scope).changedAt = none →
    (authority.scopes scope).state = .active

/-- The authority without the zones of its change times. -/
def withoutZones (authority : OperatorKillSwitchAuthority) : OperatorKillSwitchAuthority where
  runId := authority.runId
  revision := authority.revision
  scopes := fun scope ↦ { authority.scopes scope with
    changedAt := (authority.scopes scope).changedAt.map fun time ↦ ⟨time.fields, none⟩ }

theorem canonicalBytes_withoutZones (authority : OperatorKillSwitchAuthority) :
    canonicalBytes authority.withoutZones = canonicalBytes authority := by
  have hscope (scope : KillSwitchScope) :
      scopeDocument (authority.withoutZones.scopes scope) = scopeDocument (authority.scopes scope) := by
    simp only [scopeDocument, withoutZones]
    cases (authority.scopes scope).changedAt <;> rfl
  simp only [canonicalBytes, document, scopesDocument, hscope]
  rfl

/-- An authority is without zones when no change time of it has one. -/
theorem withoutZones_eq_self : authority.withoutZones = authority ↔
    ∀ scope, ∀ time ∈ (authority.scopes scope).changedAt, time.utcOffset = none := by
  constructor
  · intro h scope time hmem
    have hscope := congrArg (fun other ↦ (other.scopes scope).changedAt) h
    simp only [withoutZones, Option.mem_def.mp hmem, Option.map_some, Option.some.injEq] at hscope
    rw [← hscope]
  · intro h
    refine OperatorKillSwitchAuthority.ext rfl rfl (funext fun scope ↦ ?_)
    have hscope := h scope
    cases hcontrol : authority.scopes scope with
    | mk key state reason changedAt =>
      rw [hcontrol] at hscope
      simp only [withoutZones, hcontrol]
      cases changedAt with
      | none => rfl
      | some time =>
        have hzone := hscope time rfl
        cases time with
        | mk fields utcOffset =>
          cases hzone
          rfl

theorem parseChangedAt_null {state : KillSwitchState} (h : state = .active) :
    parseChangedAt state (some .null) = .ok none := by
  unfold parseChangedAt
  rw [require_of h]
  rfl

theorem parseChangedAt_text (state : KillSwitchState) (time : Datetime) :
    parseChangedAt state (some (.text time.text)) = .ok (some ⟨time, none⟩) := by
  have hread : Datetime.strptime time.text.toList = some time := by
    rw [Datetime.text, String.toList_ofList, Datetime.strptime_characters]
  simp only [parseChangedAt, hread, demand_some, ok_bind]
  rfl

/-- The record of a scope is parsed back without the zone of its time. -/
theorem parseScope_document (h : authority.Sound) (scope : KillSwitchScope) :
    parseScope (scopesDocument authority) scope = .ok (authority.withoutZones.scopes scope) := by
  have hraw : Json.dictGet (scopesDocument authority) scope.value =
      some (.object (scopeDocument (authority.scopes scope))) := by
    cases scope <;> rfl
  have hkey := h.keyed scope
  have htimed := h.timed scope
  simp only [withoutZones]
  cases hcontrol : authority.scopes scope with
  | mk key state reason changedAt =>
    rw [hcontrol] at hkey htimed hraw
    cases hkey
    generalize hdocument : scopeDocument ⟨key, state, reason, changedAt⟩ = raw at hraw
    have hkeys : Json.dictKeysAre raw ["state", "reason", "changed_at"] = true := by
      rw [← hdocument]
      rfl
    have hstate : parseState (Json.dictGet raw "state") = .ok state := by
      rw [← hdocument]
      cases state <;> rfl
    have hreason : parseReason (Json.dictGet raw "reason") = .ok reason := by
      rw [← hdocument]
      rfl
    have htime : parseChangedAt state (Json.dictGet raw "changed_at") =
        .ok (changedAt.map fun time ↦ ⟨time.fields, none⟩) := by
      rw [← hdocument]
      cases changedAt with
      | none => exact parseChangedAt_null (htimed rfl)
      | some time => exact parseChangedAt_text state time.fields
    unfold parseScope
    rw [hraw, Json.membersOf, demand_some, ok_bind, require_of hkeys, ok_bind, hstate, ok_bind, hreason, ok_bind,
      htime]
    rfl

/-- A restart restores the authority without the zones of its change times. -/
theorem restore_canonicalBytes (h : authority.Sound) :
    restore authority.runId (canonicalBytes authority) = .ok authority.withoutZones := by
  have hschema : Json.textOf (Json.dictGet (document authority) "schema") = some SCHEMA := rfl
  have hrun : Json.textOf (Json.dictGet (document authority) "run_id") = some authority.runId.value :=
    rfl
  have hrevision : Json.intOf (Json.dictGet (document authority) "revision") =
      some (authority.revision : ℤ) := rfl
  have hscopes : Json.dictGet (document authority) "scopes" =
      some (.object (scopesDocument authority)) := rfl
  have hkeys : Json.dictKeysAre (scopesDocument authority) ["strategy", "account", "global"] =
      true := rfl
  unfold restore
  rw [canonicalBytes, Json.loadsBytes_bytes, demand_some, ok_bind, Json.membersOf, demand_some, ok_bind,
    require_of hschema, ok_bind, require_of hrun, ok_bind, hrevision, demand_some, ok_bind,
    require_of (Int.natCast_nonneg _), ok_bind, hscopes, Json.membersOf, demand_some, ok_bind, require_of hkeys,
    ok_bind, parseScope_document h, ok_bind, parseScope_document h, ok_bind,
    parseScope_document h, ok_bind]
  refine congrArg Except.ok (OperatorKillSwitchAuthority.ext rfl (Int.toNat_natCast _)
    (funext fun scope ↦ ?_))
  cases scope <;> rfl

/-- The bytes of another run are not restored. -/
theorem restore_other {runId : RunId} (h : runId ≠ authority.runId) :
    restore runId (canonicalBytes authority) =
      .error (conflict "kill-switch identity conflicts") := by
  have hschema : Json.textOf (Json.dictGet (document authority) "schema") = some SCHEMA := rfl
  have hrun : Json.textOf (Json.dictGet (document authority) "run_id") ≠ some runId.value := by
    show some authority.runId.value ≠ some runId.value
    intro heq
    refine h ?_
    cases runId
    cases hauthority : authority.runId
    rw [hauthority] at heq
    cases heq
    rfl
  unfold restore
  rw [canonicalBytes, Json.loadsBytes_bytes, demand_some, ok_bind, Json.membersOf, demand_some, ok_bind,
    require_of hschema, ok_bind, require_of_not hrun]
  rfl

end OperatorKillSwitchAuthority

/-! ### Changes -/

/-- What an effective call records: the scope, its new state, and the reason and time given. -/
structure Change where
  scope : KillSwitchScope
  state : KillSwitchState
  reason : String
  changedAt : Datetime
  deriving DecidableEq

/-- The arguments that both calls accept. -/
def Accepts (reason : String) (changedAt : OffsetDatetime) : Prop :=
  reason.toList.all isStripped = false ∧ reason.utf8ByteSize ≤ 1024 ∧ changedAt.utcOffset = some 0

instance (reason : String) (changedAt : OffsetDatetime) : Decidable (Accepts reason changedAt) :=
  inferInstanceAs (Decidable (_ ∧ _))

/-- The change that a call makes: a halt changes a scope that is not halted, a resume one that is,
and a restart none. -/
def effect (authority : OperatorKillSwitchAuthority) : Call → Option Change
  | .halt scope reason changedAt =>
    if Accepts reason changedAt ∧ authority.isHalted scope = false then
      some ⟨scope, .halted, reason, changedAt.fields⟩
    else none
  | .resume scope reason changedAt =>
    if Accepts reason changedAt ∧ authority.isHalted scope = true then
      some ⟨scope, .active, reason, changedAt.fields⟩
    else none
  | .restart _ => none

/-- The changes of a run, in order. -/
def changes (authority : OperatorKillSwitchAuthority) : List Call → List Change
  | [] => []
  | call :: rest => (effect authority call).toList ++ changes (step authority call) rest

/-- The control that a change records. -/
def Change.control (change : Change) : ScopeControl :=
  ⟨change.scope, change.state, change.reason, some ⟨change.changedAt, some 0⟩⟩

section Steps

variable {authority : OperatorKillSwitchAuthority}

theorem record_scopes_self (change : Change) :
    (authority.record change.control).scopes change.scope = change.control := by
  show Function.update authority.scopes change.scope change.control change.scope = change.control
  rw [Function.update_self]

variable {change : Change} {scope : KillSwitchScope} {reason : String} {changedAt : OffsetDatetime}
  {call : Call}

theorem record_scopes_of_ne (h : scope ≠ change.scope) :
    (authority.record change.control).scopes scope = authority.scopes scope := by
  show Function.update authority.scopes change.scope change.control scope = authority.scopes scope
  rw [Function.update_of_ne h]

theorem requireArguments_ok (h : Accepts reason changedAt) : requireReason reason = .ok () ∧
      requireChangedAt changedAt = .ok changedAt := by
  obtain ⟨hstrip, hbytes, hzone⟩ := h
  constructor
  · rw [requireReason, require_of hstrip, ok_bind, require_of hbytes]
  · rw [requireChangedAt, require_of hzone]
    rfl

theorem accepts_of_ok {found : OffsetDatetime}
    (hreason : requireReason reason = .ok ()) (hchanged : requireChangedAt changedAt = .ok found) :
    Accepts reason changedAt := by
  simp only [requireReason, bind_eq_ok, require_eq_ok, exists_const] at hreason
  simp only [requireChangedAt, bind_eq_ok, require_eq_ok, exists_const] at hchanged
  exact ⟨hreason.1, hreason.2, hchanged.1⟩

/-- Refused arguments stop a call. -/
theorem exists_error_of_not_accepts {α : Type}
    (h : ¬Accepts reason changedAt) (rest : OffsetDatetime → Except OperatorKillSwitchError α) :
    ∃ error, (do requireReason reason; let found ← requireChangedAt changedAt; rest found) =
      .error error := by
  cases hresult : (do requireReason reason; let found ← requireChangedAt changedAt; rest found) with
  | error error => exact ⟨error, rfl⟩
  | ok value =>
    simp only [bind_eq_ok] at hresult
    obtain ⟨_, hreason, found, hchanged, -⟩ := hresult
    exact absurd (accepts_of_ok hreason hchanged) h

theorem utc_of_accepts (h : Accepts reason changedAt) : changedAt = ⟨changedAt.fields, some 0⟩ := by
  obtain ⟨-, -, hzone⟩ := h
  cases changedAt with
  | mk fields utcOffset =>
    cases hzone
    rfl

/-- A halt that accepts its arguments keeps the control of a halted scope. -/
theorem halt_of_accepts (h : Accepts reason changedAt) : authority.halt scope reason changedAt =
      if authority.isHalted scope then .ok (authority.scopes scope, authority)
      else .ok (⟨scope, .halted, reason, some changedAt⟩,
        authority.record ⟨scope, .halted, reason, some changedAt⟩) := by
  obtain ⟨hreason, hchanged⟩ := requireArguments_ok h
  simp only [OperatorKillSwitchAuthority.halt, OperatorKillSwitchAuthority.isHalted, hreason,
    hchanged, ok_bind, decide_eq_true_eq]
  rfl

theorem resume_of_accepts (h : Accepts reason changedAt) : authority.resume scope reason changedAt =
      if authority.isHalted scope then .ok (⟨scope, .active, reason, some changedAt⟩,
        authority.record ⟨scope, .active, reason, some changedAt⟩)
      else .error ⟨.conflictingId, "resume requires a halted scope"⟩ := by
  obtain ⟨hreason, hchanged⟩ := requireArguments_ok h
  simp only [OperatorKillSwitchAuthority.resume, OperatorKillSwitchAuthority.isHalted, hreason,
    hchanged, ok_bind, decide_eq_true_eq]
  by_cases hhalted : (authority.scopes scope).state = .halted
  · rw [require_of hhalted, if_pos hhalted]
    rfl
  · rw [require_of_not hhalted, if_neg hhalted]
    rfl

/-- The effective calls. -/
theorem effect_cases (h : effect authority call = some change) :
    (∃ scope reason changedAt, call = .halt scope reason changedAt ∧ Accepts reason changedAt ∧
      authority.isHalted scope = false ∧ change = ⟨scope, .halted, reason, changedAt.fields⟩) ∨
    (∃ scope reason changedAt, call = .resume scope reason changedAt ∧ Accepts reason changedAt ∧
      authority.isHalted scope = true ∧ change = ⟨scope, .active, reason, changedAt.fields⟩) := by
  cases call with
  | halt scope reason changedAt =>
    obtain ⟨⟨haccepts, hactive⟩, hchange⟩ := Option.ite_none_right_eq_some.mp h
    exact .inl ⟨scope, reason, changedAt, rfl, haccepts, hactive, (Option.some.inj hchange).symm⟩
  | resume scope reason changedAt =>
    obtain ⟨⟨haccepts, hhalted⟩, hchange⟩ := Option.ite_none_right_eq_some.mp h
    exact .inr ⟨scope, reason, changedAt, rfl, haccepts, hhalted, (Option.some.inj hchange).symm⟩
  | restart runId => cases h

/-- An effective call records its change. -/
theorem step_of_effect (h : effect authority call = some change) :
    step authority call = authority.record change.control := by
  rcases effect_cases h with ⟨scope, reason, changedAt, rfl, haccepts, hactive, rfl⟩ |
    ⟨scope, reason, changedAt, rfl, haccepts, hhalted, rfl⟩
  · rw [step, halt_of_accepts haccepts, hactive, utc_of_accepts haccepts]
    rfl
  · rw [step, resume_of_accepts haccepts, hhalted, utc_of_accepts haccepts]
    rfl

/-- A call without an effect, raised or not, leaves the authority as it was. -/
theorem step_of_no_effect (h : effect authority call = none)
    (hcall : ∀ runId, call ≠ .restart runId) : step authority call = authority := by
  cases call with
  | halt scope reason changedAt =>
    by_cases haccepts : Accepts reason changedAt
    · cases hhalted : authority.isHalted scope with
      | true => rw [step, halt_of_accepts haccepts, hhalted]; rfl
      | false => rw [effect, if_pos ⟨haccepts, hhalted⟩] at h; cases h
    · obtain ⟨error, herror⟩ := exists_error_of_not_accepts haccepts fun found ↦
        if (authority.scopes scope).state = .halted then pure (authority.scopes scope, authority)
        else pure (⟨scope, .halted, reason, some found⟩,
          authority.record ⟨scope, .halted, reason, some found⟩)
      rw [step, show authority.halt scope reason changedAt = .error error from herror, commit_error]
  | resume scope reason changedAt =>
    by_cases haccepts : Accepts reason changedAt
    · cases hhalted : authority.isHalted scope with
      | true => rw [effect, if_pos ⟨haccepts, hhalted⟩] at h; cases h
      | false => rw [step, resume_of_accepts haccepts, hhalted]; rfl
    · obtain ⟨error, herror⟩ := exists_error_of_not_accepts haccepts fun found ↦ do
        require ((authority.scopes scope).state = .halted)
          (⟨.conflictingId, "resume requires a halted scope"⟩ : OperatorKillSwitchError)
        pure ((⟨scope, .active, reason, some found⟩ : ScopeControl),
          authority.record ⟨scope, .active, reason, some found⟩)
      rw [step, show authority.resume scope reason changedAt = .error error from herror,
        commit_error]
  | restart runId => exact absurd rfl (hcall runId)

/-- A restart under its own run loses the zones of the change times; another run restores
nothing. -/
theorem step_restart (h : authority.Sound) (runId : RunId) :
    step authority (.restart runId) =
      if runId = authority.runId then authority.withoutZones else authority := by
  by_cases hrun : runId = authority.runId
  · rw [if_pos hrun, step, hrun, OperatorKillSwitchAuthority.restore_canonicalBytes h]
  · rw [if_neg hrun, step, OperatorKillSwitchAuthority.restore_other hrun]

end Steps

/-! ### Runs -/

/-- The last change of a scope. -/
def lastChange (log : List Change) (scope : KillSwitchScope) : Option Change :=
  (log.filter fun change ↦ change.scope = scope).getLast?

/-- The state after a change, or the first one. -/
def stateAfter (change : Option Change) : KillSwitchState := change.elim .active Change.state

/-- A control shows the last change of its scope, or the first control. -/
def Shows (control : ScopeControl) (change : Option Change) : Prop :=
  control.state = stateAfter change ∧ control.reason = change.elim "" Change.reason ∧
    control.changedAt.map OffsetDatetime.fields = change.map Change.changedAt

/-- An authority is what its changes say. Each change is to another state than the scope had, so the
last halt of a halted scope is the first one since it was last resumed. -/
structure Tracks (runId : RunId) (authority : OperatorKillSwitchAuthority) (log : List Change) :
    Prop where
  run : authority.runId = runId
  revision : authority.revision = log.length
  keyed : ∀ scope, (authority.scopes scope).scope = scope
  shown : ∀ scope, Shows (authority.scopes scope) (lastChange log scope)
  alternate : ∀ before change after, log = before ++ change :: after →
    change.state ≠ stateAfter (lastChange before change.scope)

section Runs

variable {runId : RunId} {authority : OperatorKillSwitchAuthority} {log : List Change}

theorem lastChange_concat (change : Change) (scope : KillSwitchScope) :
    lastChange (log ++ [change]) scope =
      if change.scope = scope then some change else lastChange log scope := by
  rw [lastChange, List.filter_append, List.filter_singleton]
  by_cases hscope : change.scope = scope
  · simp [hscope]
  · simp [hscope, lastChange]

theorem tracks_create (runId : RunId) : Tracks runId (create runId) [] where
  run := rfl
  revision := rfl
  keyed := fun _ ↦ rfl
  shown := fun _ ↦ ⟨rfl, rfl, rfl⟩
  alternate := by
    intro before change after h
    exact absurd h.symm (List.append_ne_nil_of_right_ne_nil before (List.cons_ne_nil change after))

theorem Tracks.sound (h : Tracks runId authority log) : authority.Sound where
  keyed := h.keyed
  timed := by
    intro scope htime
    obtain ⟨hstate, -, hchanged⟩ := h.shown scope
    rw [htime, Option.map_none, eq_comm, Option.map_eq_none_iff] at hchanged
    rw [hstate, hchanged]
    rfl

/-- The state that a change leaves is not the one that the scope had. -/
theorem state_ne_of_effect {call : Call} {change : Change}
    (h : effect authority call = some change) :
    change.state ≠ (authority.scopes change.scope).state := by
  rcases effect_cases h with ⟨scope, reason, changedAt, -, -, hactive, rfl⟩ |
    ⟨scope, reason, changedAt, -, -, hhalted, rfl⟩
  · exact fun heq ↦ absurd heq.symm (of_decide_eq_false hactive)
  · intro heq
    have hstate : (authority.scopes scope).state = .halted := of_decide_eq_true hhalted
    rw [← heq] at hstate
    cases hstate

/-- A recorded change goes on the log. -/
theorem Tracks.record {call : Call} {change : Change} (h : Tracks runId authority log)
    (heffect : effect authority call = some change) :
    Tracks runId (authority.record change.control) (log ++ [change]) where
  run := h.run
  revision := by
    rw [List.length_append, ← h.revision]
    rfl
  keyed := by
    intro scope
    by_cases hscope : scope = change.scope
    · subst hscope
      rw [record_scopes_self]
      rfl
    · rw [record_scopes_of_ne hscope]
      exact h.keyed scope
  shown := by
    intro scope
    rw [lastChange_concat]
    by_cases hscope : change.scope = scope
    · subst hscope
      rw [if_pos rfl, record_scopes_self]
      exact ⟨rfl, rfl, rfl⟩
    · rw [if_neg hscope, record_scopes_of_ne (Ne.symm hscope)]
      exact h.shown scope
  alternate := by
    intro before found after hlog
    rcases List.eq_nil_or_concat after with rfl | ⟨rest, last, rfl⟩
    · obtain ⟨rfl, hlast⟩ := List.append_inj' hlog rfl
      cases hlast
      rw [← (h.shown change.scope).1]
      exact state_ne_of_effect heffect
    · rw [List.concat_eq_append, ← List.cons_append, ← List.append_assoc] at hlog
      exact h.alternate before found rest (List.append_inj' hlog rfl).1

/-- A restart keeps what the log says. -/
theorem Tracks.withoutZones (h : Tracks runId authority log) :
    Tracks runId authority.withoutZones log where
  run := h.run
  revision := h.revision
  keyed := h.keyed
  shown := by
    intro scope
    obtain ⟨hstate, hreason, hchanged⟩ := h.shown scope
    refine ⟨hstate, hreason, ?_⟩
    rw [← hchanged]
    exact Option.map_map _ _ _
  alternate := h.alternate

/-- One call appends its change, where it makes one, to the log that the state tracks. -/
theorem Tracks.step (h : Tracks runId authority log) (call : Call) :
    Tracks runId (step authority call) (log ++ (effect authority call).toList) := by
  cases heffect : effect authority call with
  | some change =>
    rw [step_of_effect heffect]
    exact h.record heffect
  | none =>
    rw [Option.toList_none, List.append_nil]
    by_cases hcall : ∃ other, call = .restart other
    · obtain ⟨other, rfl⟩ := hcall
      rw [step_restart h.sound]
      split_ifs
      · exact h.withoutZones
      · exact h
    · rw [step_of_no_effect heffect fun other heq ↦ hcall ⟨other, heq⟩]
      exact h

/-- By induction, a run appends the changes of its calls in their order. -/
theorem Tracks.after_run (h : Tracks runId authority log) (calls : List Call) :
    Tracks runId (KillSwitch.run authority calls) (log ++ changes authority calls) := by
  induction calls generalizing authority log with
  | nil => simpa [KillSwitch.run, changes] using h
  | cons call rest ih =>
    have hnext := ih (h.step call)
    rw [List.append_assoc] at hnext
    exact hnext

/-- The runs of a fresh authority. -/
theorem tracks_run (runId : RunId) (calls : List Call) :
    Tracks runId (KillSwitch.run (create runId) calls) (changes (create runId) calls) :=
  (tracks_create runId).after_run calls

end Runs

/-! ### Restarts -/

/-- A restart gives back the authority that was persisted, with the same bytes. -/
def SurvivesRestart (authority : OperatorKillSwitchAuthority) : Prop :=
  ∃ restored, restore authority.runId (canonicalBytes authority) = .ok restored ∧
    restored.runId = authority.runId ∧ restored.revision = authority.revision ∧
    (∀ scope, restored.scopes scope = authority.scopes scope) ∧
    canonicalBytes restored = canonicalBytes authority

/-- No scope holds a change time with a zone: each was never changed, or was last changed before the
last restart. -/
def ZoneFree (authority : OperatorKillSwitchAuthority) : Prop :=
  ∀ scope, ∀ time ∈ (authority.scopes scope).changedAt, time.utcOffset = none

theorem survivesRestart_iff {authority : OperatorKillSwitchAuthority} (h : authority.Sound) :
    SurvivesRestart authority ↔ ZoneFree authority := by
  have hrestored := OperatorKillSwitchAuthority.restore_canonicalBytes h
  rw [ZoneFree, ← OperatorKillSwitchAuthority.withoutZones_eq_self]
  constructor
  · rintro ⟨restored, hfound, hrun, hrevision, hscopes, -⟩
    rw [hrestored] at hfound
    cases hfound
    exact OperatorKillSwitchAuthority.ext hrun hrevision (funext hscopes)
  · intro hsame
    refine ⟨authority.withoutZones, hrestored, rfl, rfl, fun scope ↦ by rw [hsame], ?_⟩
    exact OperatorKillSwitchAuthority.canonicalBytes_withoutZones authority

/-- In every run, a restart gives back the persisted authority exactly where no change time has a
zone. The run, the revision, the states, the reasons, the fields of the times and the bytes are kept
by every restart; a scope shows the last change of it, the revision counts the changes, and a call
without an effect changes nothing. -/
theorem restarts_keep_kill_switch (runId : RunId) (calls : List Call) :
    (SurvivesRestart (run (create runId) calls) ↔ ZoneFree (run (create runId) calls)) ∧
    (∃ restored, restore runId (canonicalBytes (run (create runId) calls)) = .ok restored ∧
      canonicalBytes restored = canonicalBytes (run (create runId) calls) ∧
      Tracks runId restored (changes (create runId) calls)) ∧
    Tracks runId (run (create runId) calls) (changes (create runId) calls) ∧
    (∀ scope, (run (create runId) calls).isHalted scope = true ↔
      stateAfter (lastChange (changes (create runId) calls) scope) = .halted) ∧
    ∀ call, effect (run (create runId) calls) call = none → (∀ other, call ≠ .restart other) →
      step (run (create runId) calls) call = run (create runId) calls := by
  have htracks := tracks_run runId calls
  refine ⟨survivesRestart_iff htracks.sound, ?_, htracks, fun scope ↦ ?_,
    fun call ↦ step_of_no_effect⟩
  · have hrestored := OperatorKillSwitchAuthority.restore_canonicalBytes htracks.sound
    rw [htracks.run] at hrestored
    exact ⟨_, hrestored, OperatorKillSwitchAuthority.canonicalBytes_withoutZones _,
      htracks.withoutZones⟩
  · rw [OperatorKillSwitchAuthority.isHalted, decide_eq_true_eq, (htracks.shown scope).1]

/-- A halted scope is restored with a change time that has no zone. -/
theorem not_forall_survivesRestart :
    ¬∀ (runId : RunId) (calls : List Call), SurvivesRestart (run (create runId) calls) := by
  intro h
  let runId : RunId := ⟨"00000000-0000-4000-8000-000000000000", by decide⟩
  let calls : List Call := [.halt .global "stop" ⟨⟨2026, 1, 2, 3, 4, 5, 6, by decide⟩, some 0⟩]
  have hzone := (survivesRestart_iff (tracks_run runId calls).sound).mp (h runId calls) .global
    ⟨⟨2026, 1, 2, 3, 4, 5, 6, by decide⟩, some 0⟩ rfl
  cases hzone

end EaQuant.KillSwitch
