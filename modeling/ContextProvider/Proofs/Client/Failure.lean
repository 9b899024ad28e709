import ContextProvider.Proofs.Backend.Live
import ContextProvider.Proofs.Client.Request

/-!
# Failing exchanges

An exchange with a data source can go wrong at every stage. Nothing may be sent, for want of a
credential or of a proper URL; the connection may break; the reply may be late or never come; its
status may not be a success, whatever its body; its body may break off or not be a JSON value; the
value may not be what was asked for; and an attribute may not be readable from it. These are all
the ways in which an exchange leaves a request without values.
-/

namespace ContextProvider

/-! ## Replies without a value -/

namespace FetchReply

variable {reply : FetchReply}

theorem isSuccess_iff : reply.isSuccess ↔ 200 ≤ reply.status ∧ reply.status < 300 := by
  simp [isSuccess]

theorem not_isSuccess_iff : ¬ reply.isSuccess ↔ reply.status < 200 ∨ 300 ≤ reply.status := by
  rw [isSuccess_iff]
  omega

theorem status_ne_of_isSuccess (h : reply.isSuccess) : reply.status ≠ 429 := by
  rw [isSuccess_iff] at h
  omega

/-- Too many requests are that, whatever the body is. -/
theorem readJson_of_limited (h : reply.status = 429) : reply.readJson = .error .rateLimited := by
  rw [readJson, if_pos h]

/-- Any other status that is not a success is an error that names it. -/
theorem readJson_of_refused (hother : reply.status ≠ 429) (h : ¬ reply.isSuccess) :
    reply.readJson = .error (.status reply.status (errorMessage reply.text reply.status)) := by
  rw [readJson, if_neg hother, if_neg h]

theorem readJson_of_undecodable (hsuccess : reply.isSuccess)
    (h : reply.body.bind Json.ofJsonBytes? = none) :
    reply.readJson = .error (.malformed "error decoding response body") := by
  rw [readJson, if_neg (status_ne_of_isSuccess hsuccess), if_pos hsuccess, h]

/-- A success with a JSON value for its body is read as that value. -/
theorem readJson_of_value {value : Json} (hsuccess : reply.isSuccess)
    (hvalue : reply.body.bind Json.ofJsonBytes? = some value) : reply.readJson = .ok value := by
  rw [readJson, if_neg (status_ne_of_isSuccess hsuccess), if_pos hsuccess, hvalue]

theorem exists_readJson_eq_error
    (h : ¬ reply.isSuccess ∨ reply.body.bind Json.ofJsonBytes? = none) :
    ∃ error, reply.readJson = .error error := by
  by_cases hlimited : reply.status = 429
  · exact ⟨_, readJson_of_limited hlimited⟩
  by_cases hsuccess : reply.isSuccess
  · exact ⟨_, readJson_of_undecodable hsuccess (h.resolve_left (not_not_intro hsuccess))⟩
  · exact ⟨_, readJson_of_refused hlimited hsuccess⟩

theorem match_readJson {α : Type} (interpret : Json → Except FetchError α) (reply : FetchReply) :
    (match reply.readJson with
      | .error error => .error error
      | .ok value => interpret value) = reply.readJson.bind interpret := by
  cases reply.readJson <;> rfl

end FetchReply

/-! ## The stages of an exchange -/

namespace FetchRequest

section

variable {α : Type} (network : Network) (request : Except FetchError FetchRequest)
  (interpret : Json → Except FetchError α)
  (read : AttributeSpec → α → Except FetchError AttributeValue) (specs : List AttributeSpec)
  (limit : Nat)

/-- The ways in which an exchange leaves the attributes without values. -/
inductive Fails : Prop
  | unsent {error : FetchError} (made : request = .error error)
  | broken {sent : FetchRequest} {milliseconds : Nat} {error : FetchError}
      (made : request = .ok sent) (arrived : network sent = .after milliseconds (.error error))
  | late {sent : FetchRequest} {milliseconds : Nat} {answer : Except FetchError FetchReply}
      (made : request = .ok sent) (arrived : network sent = .after milliseconds answer)
      (late : limit < milliseconds)
  | never {sent : FetchRequest} (made : request = .ok sent) (arrived : network sent = .never)
  | refused {sent : FetchRequest} {milliseconds : Nat} {reply : FetchReply}
      (made : request = .ok sent) (arrived : network sent = .after milliseconds (.ok reply))
      (refused : reply.isSuccess = false)
  | undecodable {sent : FetchRequest} {milliseconds : Nat} {reply : FetchReply}
      (made : request = .ok sent) (arrived : network sent = .after milliseconds (.ok reply))
      (undecodable : reply.body.bind Json.ofJsonBytes? = none)
  | uninterpretable {sent : FetchRequest} {milliseconds : Nat} {reply : FetchReply} {value : Json}
      {error : FetchError} (made : request = .ok sent)
      (arrived : network sent = .after milliseconds (.ok reply))
      (decoded : reply.body.bind Json.ofJsonBytes? = some value)
      (uninterpretable : interpret value = .error error)
  | unreadable {sent : FetchRequest} {milliseconds : Nat} {reply : FetchReply} {value : Json}
      {answer : α} {spec : AttributeSpec} {error : FetchError} (made : request = .ok sent)
      (arrived : network sent = .after milliseconds (.ok reply))
      (decoded : reply.body.bind Json.ofJsonBytes? = some value)
      (interpreted : interpret value = .ok answer) (asked : spec ∈ specs)
      (unread : read spec answer = .error error)

variable {network request interpret read specs limit}

theorem live_fails_of_reply {milliseconds : Nat} {reply : FetchReply}
    (h : ∀ value, reply.isSuccess = true → reply.body.bind Json.ofJsonBytes? = some value →
      ∀ answer, interpret value = .ok answer →
        ∃ spec ∈ specs, ∃ error, read spec answer = .error error) :
    Live.Fails read specs limit (.after milliseconds (reply.readJson.bind interpret)) := by
  cases hdecoded : reply.body.bind Json.ofJsonBytes? with
  | none =>
    obtain ⟨error, herror⟩ := FetchReply.exists_readJson_eq_error (.inr hdecoded)
    rw [herror]
    exact .error
  | some value =>
    by_cases hsuccess : reply.isSuccess = true
    · rw [FetchReply.readJson_of_value hsuccess hdecoded]
      change Live.Fails read specs limit (.after milliseconds (interpret value))
      cases hinterpreted : interpret value with
      | error error => exact .error
      | ok answer =>
        obtain ⟨spec, hspec, error, herror⟩ := h value hsuccess hdecoded answer hinterpreted
        exact .unreadable hspec herror
    · obtain ⟨error, herror⟩ := FetchReply.exists_readJson_eq_error (.inl hsuccess)
      rw [herror]
      exact .error

theorem live_fails_of_fails (h : Fails network request interpret read specs limit) :
    Live.Fails read specs limit
      (exchange network request fun reply ↦ reply.readJson.bind interpret).arrival := by
  cases h with
  | unsent made =>
    rw [made]
    exact .error
  | broken made arrived =>
    rw [made, exchange_ok, arrived]
    exact .error
  | @late sent milliseconds answer made arrived late =>
    rw [made, exchange_ok, arrived]
    cases answer <;> exact .late late
  | never made arrived =>
    rw [made, exchange_ok, arrived]
    exact .never
  | refused made arrived refused =>
    rw [made, exchange_ok, arrived]
    apply live_fails_of_reply
    intro value hsuccess
    cases refused.symm.trans hsuccess
  | undecodable made arrived undecodable =>
    rw [made, exchange_ok, arrived]
    apply live_fails_of_reply
    intro value hsuccess hdecoded
    cases undecodable.symm.trans hdecoded
  | uninterpretable made arrived decoded uninterpretable =>
    rw [made, exchange_ok, arrived]
    apply live_fails_of_reply
    intro value hsuccess hdecoded answer hinterpreted
    cases decoded.symm.trans hdecoded
    cases uninterpretable.symm.trans hinterpreted
  | @unreadable sent milliseconds reply value answer spec error made arrived decoded interpreted
      asked unread =>
    rw [made, exchange_ok, arrived]
    apply live_fails_of_reply
    intro found hsuccess hdecoded other hinterpreted
    cases decoded.symm.trans hdecoded
    cases interpreted.symm.trans hinterpreted
    exact ⟨spec, asked, error, unread⟩

/-- An exchange goes wrong at one of its stages exactly if its source fails. -/
theorem fails_iff : Fails network request interpret read specs limit ↔
    Live.Fails read specs limit
      (exchange network request fun reply ↦ reply.readJson.bind interpret).arrival := by
  refine ⟨live_fails_of_fails, fun h ↦ ?_⟩
  cases hmade : request with
  | error error => exact .unsent rfl
  | ok sent =>
    rw [hmade, exchange_ok] at h
    cases harrived : network sent with
    | never => exact .never rfl harrived
    | after milliseconds answer =>
      cases answer with
      | error error => exact .broken rfl harrived
      | ok reply =>
        rw [harrived] at h
        by_cases hsuccess : reply.isSuccess = true
        · cases hdecoded : reply.body.bind Json.ofJsonBytes? with
          | none => exact .undecodable rfl harrived hdecoded
          | some value =>
            rw [Arrival.read, FetchReply.readJson_of_value hsuccess hdecoded] at h
            change Live.Fails read specs limit (.after milliseconds (interpret value)) at h
            cases hinterpreted : interpret value with
            | error error => exact .uninterpretable rfl harrived hdecoded hinterpreted
            | ok answer =>
              rw [hinterpreted] at h
              cases h with
              | late late => exact .late rfl harrived late
              | unreadable asked unread =>
                exact .unreadable rfl harrived hdecoded hinterpreted asked unread
        · exact .refused rfl harrived (Bool.not_eq_true _ ▸ hsuccess)

end

end FetchRequest

/-! ## The two clients -/

section

variable {network : Network} {specs : List AttributeSpec} {limit : Nat}

theorem SearchClient.fails_search_iff (client : SearchClient) (term : String) :
    Live.Fails Search.column specs limit (client.search network term) ↔
      FetchRequest.Fails network (client.request term) results Search.column specs limit := by
  have hread : readReply = fun reply ↦ reply.readJson.bind results := by
    funext reply
    exact reply.match_readJson results
  rw [search, exchange, hread]
  exact FetchRequest.fails_iff.symm

theorem ObservationClient.fails_observe_iff (client : ObservationClient) (place : String) :
    Live.Fails Observation.reading specs limit (client.observe network place) ↔
      FetchRequest.Fails network (client.request place) observation Observation.reading specs
        limit := by
  have hread : readReply = fun reply ↦ reply.readJson.bind observation := by
    funext reply
    exact reply.match_readJson observation
  rw [observe, exchange, hread]
  exact FetchRequest.fails_iff.symm

end

end ContextProvider
