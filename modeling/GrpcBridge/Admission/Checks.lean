/-
# Admission.Checks -- what a request has shown when it gets past a gate

One statement for each gate of Admission.Request: the headers of a request that
`checkRequest` lets pass (`checkRequest_ok`), the policy entry that a resolved
target is (`resolveDestination_ok`) and the reply behind a grant
(`authorizeTarget_ok`).

The counters of `tunnelCredential` count items of the protocol headers
(`offer_eq`), so that one credential is one item with the prefix.

A grant's expiry is never the zero time: that would need a second beyond the range
of `int64`.
-/
import GrpcBridge.Admission.Canonical
import GrpcBridge.Admission.Request
import GrpcBridge.Gateway.Moves
import Mathlib.Data.List.Count

namespace GrpcBridge.Admission

set_option autoImplicit false

open GrpcBridge.Gateway (BadRequest BadDestination Denied)
open GrpcBridge.Theory.Fallible
open GrpcBridge.Theory.Json
open GrpcBridge.Theory.Text (Bytes utf8 literal)

/-! ## Credentials -/

/-- The items with the prefix of a credential. -/
def authItems (r : Request) : List Bytes := (offered r).filter authPrefix.isPrefixOf

theorem protocol_not_auth : authPrefix.isPrefixOf protocol = false := by decide +kernel

theorem foldl_take (items : List Bytes) (o : Offer) :
    let auth := items.filter authPrefix.isPrefixOf
    items.foldl Offer.take o =
      { profiles := o.profiles + items.count protocol
        credentials := o.credentials + auth.length
        credential := (auth.getLast?.map (·.drop authPrefix.length)).getD o.credential } := by
  induction items generalizing o with
  | nil => rfl
  | cons item rest ih =>
      rw [List.foldl_cons, ih]
      by_cases profile : item = protocol
      · subst profile
        simp only [Offer.take, if_pos, List.count_cons_self, List.filter_cons, protocol_not_auth,
          Bool.false_eq_true, if_false, Offer.mk.injEq, and_self, and_true]
        omega
      · by_cases auth : authPrefix.isPrefixOf item = true
        · simp only [Offer.take, if_neg profile, if_pos auth, List.count_cons_of_ne profile,
            List.filter_cons, List.length_cons, List.getLast?_cons, Offer.mk.injEq, true_and]
          refine ⟨by omega, ?_⟩
          cases (rest.filter authPrefix.isPrefixOf).getLast? with
          | none => rfl
          | some last => rfl
        · simp only [Offer.take, if_neg profile, if_neg auth, List.count_cons_of_ne profile,
            List.filter_cons]

theorem offer_eq (r : Request) : offer r =
    { profiles := (offered r).count protocol
      credentials := (authItems r).length
      credential := ((authItems r).getLast?.map (·.drop authPrefix.length)).getD [] } := by
  rw [offer, foldl_take]
  simp [authItems]

/-- One credential is one item. -/
theorem authItems_eq {r : Request} (one : (offer r).credentials = 1) :
    authItems r = [authPrefix ++ (offer r).credential] := by
  rw [offer_eq] at one ⊢
  obtain ⟨item, alone⟩ := List.length_eq_one_iff.mp one
  have prefixed : authPrefix.isPrefixOf item = true := by
    have inside : item ∈ authItems r := by rw [alone]; exact List.mem_singleton_self item
    exact (List.mem_filter.mp inside).2
  obtain ⟨rest, rfl⟩ := List.isPrefixOf_iff_prefix.mp prefixed
  rw [alone]
  simp

/-! ## Requests -/

/-- What `checkRequest` has seen of a request. -/
structure Presented (c : Settings) (r : Request) (credential : Bytes) : Prop where
  method : r.method = literal "GET"
  handshake : Theory.Text.base64Length (firstOf r.key) = some 16 ∧ firstOf r.version = literal "13"
  origin : firstOf r.origin = [] ∨ firstOf r.origin = c.origin
  profile : (offered r).count protocol = 1
  credentials : (authItems r).length ≤ 1
  token : c.admissionURL = [] → c.token ≠ [] → authItems r = [authPrefix ++ c.token]
  bearer : c.admissionURL ≠ [] → authItems r = [authPrefix ++ credential]

theorem tunnelCredential_ok {r : Request} {expectedToken credential : Bytes} {admission : Bool}
    (passed : tunnelCredential r expectedToken admission = .ok credential) :
    (offered r).count protocol = 1 ∧ (authItems r).length ≤ 1 ∧
      (admission = false → expectedToken ≠ [] → authItems r = [authPrefix ++ expectedToken]) ∧
      (admission = true → authItems r = [authPrefix ++ credential]) := by
  have counted := offer_eq r
  unfold tunnelCredential at passed
  dsimp only at passed
  split at passed
  · cases passed
  · next offers =>
    obtain ⟨profiles, credentials⟩ := not_or.mp offers
    have one : (offered r).count protocol = 1 := by
      rw [counted] at profiles
      exact not_not.mp profiles
    have few : (authItems r).length ≤ 1 := by
      rw [counted] at credentials
      exact Nat.not_lt.mp credentials
    split at passed
    · next service =>
      split at passed
      · cases passed
      · next valid =>
        cases passed
        obtain ⟨single, -⟩ := not_or.mp valid
        exact ⟨one, few, fun off => absurd (service.symm.trans off) (by decide),
          fun _ => authItems_eq (not_not.mp single)⟩
    · next service =>
      split at passed
      · next expected =>
        split at passed
        · cases passed
        · next equal =>
          cases passed
          obtain ⟨single, same⟩ := not_or.mp equal
          have item := authItems_eq (not_not.mp single)
          rw [not_not.mp same] at item
          exact ⟨one, few, fun _ _ => item, fun on => absurd on service⟩
      · next unexpected =>
        exact ⟨one, few, fun _ expected => absurd expected unexpected, fun on => absurd on service⟩

theorem checkRequest_ok {c : Settings} {r : Request} {credential : Bytes}
    (passed : checkRequest c r = .ok credential) : Presented c r credential := by
  unfold checkRequest at passed
  split at passed
  · cases passed
  · next upgrade =>
    split at passed
    · cases passed
    · next handshake =>
      split at passed
      · cases passed
      · next origin =>
        obtain ⟨profile, credentials, token, bearer⟩ := tunnelCredential_ok passed
        refine ⟨?_, ?_, ?_, profile, credentials, ?_, ?_⟩
        · exact not_not.mp (not_or.mp upgrade).1
        · obtain ⟨key, version⟩ := not_or.mp handshake
          exact ⟨not_not.mp key, not_not.mp version⟩
        · by_cases absent : firstOf r.origin = []
          · exact .inl absent
          · right
            by_contra other
            exact origin ⟨absent, other⟩
        · intro local_
          exact token (by simp [local_])
        · intro service
          exact bearer (by simp [service])

/-! ## Destinations -/

/-- A target as one reading of the targets file has it. -/
structure Listed (c : Settings) (r : Request) (file : Option Bytes) (d : ResolvedTarget) : Prop where
  requested : requestedLabel c r = some d.label
  valid : validTargetLabel d.label = true
  entry : ∃ targets target, readTargetPolicy file = some targets ∧
    lookupTarget targets d.label = some target ∧ utf8 target.address = d.address ∧
      target.tls = d.tls

theorem resolveDestination_ok {c : Settings} {r : Request} {file : Option Bytes} {d : ResolvedTarget}
    (resolved : resolveDestination c r file = .ok d) : Listed c r file d := by
  unfold resolveDestination at resolved
  split at resolved
  · cases resolved
  · next label requested =>
    split at resolved
    · cases resolved
    · next valid =>
      split at resolved
      · cases resolved
      · next targets read =>
        split at resolved
        · cases resolved
        · next target found =>
          cases resolved
          exact ⟨requested, not_not.mp valid, targets, target, read, found, rfl, rfl⟩

/-! ## Grants -/

/-- A reply of the admission service that grants a target at a time. -/
structure Grants (c : Settings) (target : Bytes) (reply : Reply) (now : Int) (grant : AccessGrant) :
    Prop where
  answered : ∃ body response, reply = .response 200 (some body) ∧ body.length ≤ maxAdmissionBody ∧
    decodeStrictJSON Destination.admissionResponse.unmarshal body = .ok response ∧
    response.version = 1 ∧ utf8 response.target = target ∧ response.subject = grant.subject ∧
    0 < response.expiresAt ∧ grant.expires = unixTime response.expiresAt
  subject : validSubject grant.subject = true
  later : now < grant.expires
  within : grant.expires ≤ now + c.maxGrantLifetime

theorem readGrant_ok {c : Settings} {target data : Bytes} {now : Int} {grant : AccessGrant}
    (granted : readGrant c target now data = .ok grant) :
    ∃ response, decodeStrictJSON Destination.admissionResponse.unmarshal data = .ok response ∧
      response.version = 1 ∧ utf8 response.target = target ∧ response.subject = grant.subject ∧
      0 < response.expiresAt ∧ grant.expires = unixTime response.expiresAt ∧
      validSubject grant.subject = true ∧ now < grant.expires ∧
      grant.expires ≤ now + c.maxGrantLifetime := by
  unfold readGrant at granted
  split at granted
  · cases granted
  · next response decoded =>
    split at granted
    · cases granted
    · next fits =>
      dsimp only at granted
      split at granted
      · cases granted
      · next timely =>
        cases granted
        simp only [not_or, not_not, Int.not_le, Int.not_lt] at fits timely
        obtain ⟨version, same, subject⟩ := fits
        obtain ⟨positive, later, -, within⟩ := timely
        exact ⟨response, decoded, version, same, rfl, positive, rfl, subject, later, within⟩

theorem authorizeTarget_ok {c : Settings} {credential target : Bytes} {reply : Reply} {now : Int}
    {grant : AccessGrant} (granted : authorizeTarget c credential target reply now = .ok grant) :
    Grants c target reply now grant := by
  unfold authorizeTarget at granted
  split at granted
  · cases granted
  · split at granted
    · cases granted
    · next status body =>
      split at granted
      · next found =>
        subst found
        split at granted
        · cases granted
        · next data read =>
          split at granted
          · cases granted
          · next short =>
            obtain ⟨whole, rfl, rfl⟩ := Option.map_eq_some_iff.mp read
            -- a body that is not longer than the limit was read to its end
            have all : whole.take (maxAdmissionBody + 1) = whole := by
              apply List.take_of_length_le
              rw [List.length_take] at short
              omega
            rw [all] at short granted
            obtain ⟨response, decoded, version, same, subject, positive, expires, valid, later,
              within⟩ := readGrant_ok granted
            exact ⟨⟨whole, response, rfl, Nat.not_lt.mp short, decoded, version, same, subject,
              positive, expires⟩, valid, later, within⟩
      · split at granted
        · cases granted
        · split at granted
          · cases granted
          · cases granted

/-! ## Expiry times -/

theorem parseInt64_lt {text : List Char} {m : Int} (parsed : parseInt64 text = some m) :
    m < 2 ^ 63 := by
  unfold parseInt64 at parsed
  obtain ⟨fits, rfl⟩ := Gateway.of_when parsed
  exact fits.2.2

theorem assignInt64_lt {value : Value} {before after : Int} (small : before < 2 ^ 63)
    (assigned : assignInt64 value before = .ok after) : after < 2 ^ 63 := by
  unfold assignInt64 at assigned
  split at assigned
  · cases assigned
    exact small
  · split at assigned
    · next parsed =>
      cases assigned
      exact parseInt64_lt parsed
    · cases assigned
  all_goals cases assigned

theorem expiresAt_lt {data : Bytes} {response : AdmissionResponse}
    (decoded : decodeStrictJSON Destination.admissionResponse.unmarshal data = .ok response) :
    response.expiresAt < 2 ^ 63 := by
  obtain ⟨members, -, -, unmarshaled⟩ := decodeStrictJSON_ok decoded
  have accepted : decodeMembers AdmissionResponse.fields members {} = .ok response := unmarshaled
  apply decodeMembers_keeps (fun r => r.expiresAt < 2 ^ 63) ?_ (by decide) accepted
  intro f declared value record content small assigned
  simp only [AdmissionResponse.fields, List.mem_cons, List.not_mem_nil, or_false] at declared
  rcases declared with rfl | rfl | rfl | rfl
  · exact small
  · exact small
  · exact small
  · exact assignInt64_lt small assigned

theorem unixTime_ne_zero {seconds : Int} (positive : 0 < seconds) (small : seconds < 2 ^ 63) :
    unixTime seconds ≠ 0 := by
  intro zero
  have balanced : Int.bmod (seconds + unixToInternal) (2 ^ 64) = 0 := by
    rcases Int.mul_eq_zero.mp zero with left | right
    · exact left
    · cases right
  have remainder := Int.bmod_emod (x := seconds + unixToInternal) (m := 2 ^ 64)
  rw [balanced] at remainder
  simp only [unixToInternal] at remainder
  omega

theorem Grants.expires_ne_zero {c : Settings} {target : Bytes} {reply : Reply} {now : Int}
    {grant : AccessGrant} (grants : Grants c target reply now grant) : grant.expires ≠ 0 := by
  obtain ⟨_, response, -, -, decoded, -, -, -, positive, expires⟩ := grants.answered
  rw [expires]
  exact unixTime_ne_zero positive (expiresAt_lt decoded)

end GrpcBridge.Admission
