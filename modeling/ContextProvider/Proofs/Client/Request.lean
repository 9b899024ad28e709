import ContextProvider.Client.Observation
import ContextProvider.Client.Search
import ContextProvider.Proofs.Url.Sendable

/-!
# Requests that are made

A URL is asked for as it is, but for two parts: the fragment stays behind, and credentials move to a
header. Neither depends on the path, so a request for another path below the same base differs from
the request for the base in nothing else. If the URL can be sent, one request is sent for it, and
else none.
-/

namespace ContextProvider

namespace FetchRequest

variable {url : Url} {authorization : Option String}

/-- What a request has of a URL. -/
def asked (url : Url) : Url :=
  (bare url).withoutFragment

/-- The server that a request goes to is that of the URL. -/
theorem place_asked (url : Url) : (asked url).scheme = url.scheme ∧ (asked url).host = url.host ∧
    (asked url).portNumber = url.portNumber := by
  unfold asked bare
  split <;> exact ⟨rfl, rfl, rfl⟩

theorem path_asked (url : Url) : (asked url).path = url.path := by
  unfold asked bare
  split <;> rfl

theorem query_bare (url : Url) : (bare url).query = url.query := by
  unfold bare
  split <;> rfl

theorem query_asked (url : Url) : (asked url).query = url.query :=
  query_bare url

theorem asked_with_path (url : Url) (path : List String) :
    asked { url with path := path } = { asked url with path := path } := by
  have hbasic : basicAuthorization? { url with path := path } = basicAuthorization? url := rfl
  unfold asked bare
  rw [hbasic]
  cases (basicAuthorization? url).isSome <;> rfl

/-! ## URLs that can be sent -/

/-- Without the credentials that a header has, the URL is no longer than it may be, and its host can
be sent to. -/
def CanSend (url : Url) : Prop :=
  (bare url).text.utf8ByteSize ≤ Url.sendableLength ∧ url.host.any Url.Host.isSendable

instance (url : Url) : Decidable (CanSend url) :=
  inferInstanceAs (Decidable (_ ∧ _))

theorem isSendable_bare_iff (h : url.IsEncoded) : (bare url).isSendable ↔ CanSend url := by
  have hbare : (bare url).IsEncoded ∧ (bare url).host = url.host := by
    unfold bare
    split
    · exact ⟨h.withoutCredentials, rfl⟩
    · exact ⟨h, rfl⟩
  rw [hbare.1.isSendable_iff, hbare.2, CanSend]

/-- A URL with an allowed scheme is asked for if it can be sent, and else refused. -/
theorem make_eq_ite (hencoded : url.IsEncoded)
    (hscheme : url.scheme = "http" ∨ url.scheme = "https")
    (hheader : authorization.all isHeaderText) :
    make url authorization =
      if CanSend url then
        .ok ⟨asked url, (basicAuthorization? url).toList ++ authorization.toList⟩
      else .error (unsendable (some (bare url)) urlFault) := by
  have hallowed : ¬ (url.scheme ≠ "http" ∧ url.scheme ≠ "https") := by
    rcases hscheme with h | h <;> simp [h]
  rw [make, if_neg (by simpa using hheader), if_neg hallowed]
  by_cases hsend : CanSend url
  · rw [if_pos hsend, if_neg (by simpa using (isSendable_bare_iff hencoded).mpr hsend)]
    rfl
  · rw [if_neg hsend, if_pos (by simpa using mt (isSendable_bare_iff hencoded).mp hsend)]

theorem make_eq_ok (hencoded : url.IsEncoded)
    (hscheme : url.scheme = "http" ∨ url.scheme = "https")
    (hheader : authorization.all isHeaderText) (hsend : CanSend url) :
    make url authorization =
      .ok ⟨asked url, (basicAuthorization? url).toList ++ authorization.toList⟩ := by
  rw [make_eq_ite hencoded hscheme hheader, if_pos hsend]

theorem make_eq_error (hencoded : url.IsEncoded)
    (hscheme : url.scheme = "http" ∨ url.scheme = "https")
    (hheader : authorization.all isHeaderText) (hsend : ¬ CanSend url) :
    make url authorization = .error (unsendable (some (bare url)) urlFault) := by
  rw [make_eq_ite hencoded hscheme hheader, if_neg hsend]

/-! ## Exchanges -/

section

variable {α : Type} (network : Network) (reader : FetchReply → Except FetchError α)

@[simp]
theorem exchange_ok (request : FetchRequest) : exchange network (.ok request) reader =
    ⟨(network request).read reader, [request]⟩ := rfl

@[simp]
theorem exchange_error (error : FetchError) :
    exchange network (.error error) reader = .unsent error := rfl

/-- What is sent is the request, if it is made. -/
theorem sent_exchange (request : Except FetchError FetchRequest) :
    (exchange network request reader).sent = request.toOption.toList := by
  cases request <;> rfl

end

end FetchRequest

section

variable {network : Network} {request : FetchRequest} {error : FetchError}

theorem SearchClient.exchange_of_ok {client : SearchClient} {term : String}
    (h : client.request term = .ok request) :
    client.exchange network term = ⟨(network request).read readReply, [request]⟩ := by
  rw [exchange, h, FetchRequest.exchange_ok]

theorem SearchClient.exchange_of_error {client : SearchClient} {term : String}
    (h : client.request term = .error error) :
    client.exchange network term = .unsent error := by
  rw [exchange, h, FetchRequest.exchange_error]

theorem ObservationClient.exchange_of_ok {client : ObservationClient} {place : String}
    (h : client.request place = .ok request) :
    client.exchange network place = ⟨(network request).read readReply, [request]⟩ := by
  rw [exchange, h, FetchRequest.exchange_ok]

theorem ObservationClient.exchange_of_error {client : ObservationClient} {place : String}
    (h : client.request place = .error error) :
    client.exchange network place = .unsent error := by
  rw [exchange, h, FetchRequest.exchange_error]

end

end ContextProvider
