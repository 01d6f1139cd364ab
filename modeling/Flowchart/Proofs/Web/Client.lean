import Flowchart.Web.Network
import Mathlib.Data.List.Chain

/-!
# What clients keep to

A client may make anything of a request but for a few laws (`Client.Laws`):
it sends nothing to an address that it does not accept, it sends the
request itself first, and it sends another one only where an answer
redirects it. So a request goes out at most once, as long as no answer
redirects it (`Client.Laws.sent_of_isDirect`).
-/

namespace Flowchart

namespace Web

/-- The request was granted. -/
def Reply.Grants (a : Reply) : Prop :=
  200 ≤ a.status ∧ a.status < 300

theorem isSuccess_read_iff {c : Client} {a : Reply} : (c.read a).isSuccess = true ↔ a.Grants := by
  rw [Response.isSuccess, Bool.and_eq_true, decide_eq_true_eq, decide_eq_true_eq]
  exact Iff.rfl

/-- The answer says that another address is to be asked. -/
def Reply.Redirects (a : Reply) : Prop :=
  a.status ∈ [301, 302, 303, 307, 308] ∧ a.location.isSome

/-- The request was answered by a redirection. -/
def Hop.IsRedirected (h : Hop) : Prop :=
  ∃ a, h.answer = some a ∧ a.Redirects

/-- No request of the exchange was answered by a redirection. -/
def Exchange.IsDirect (e : Exchange) : Prop :=
  ∀ h ∈ e.hops, ¬ h.IsRedirected

/-- **What a client keeps to.** -/
structure Client.Laws (c : Client) : Prop where
  /-- Nothing is sent to an address that is not accepted, and nothing is
  given back. -/
  refused : ∀ past r, c.accepts r.url = false → c.exchange past r = {}
  /-- What goes out first is the request itself. -/
  first : ∀ past r, ∀ h ∈ (c.exchange past r).hops.head?, h.request = r
  /-- What goes out next follows a redirection. -/
  redirected : ∀ past r, (c.exchange past r).hops.IsChain fun h _ => h.IsRedirected
  /-- What is given back is the answer to what went out last. -/
  answered : ∀ past r a, (c.exchange past r).answer = some a →
    ∃ h ∈ (c.exchange past r).hops.getLast?, h.answer = some a
  /-- A body that spells a text is read as this text. -/
  text : ∀ text : String, c.text text.toUTF8 = text

namespace Client.Laws

variable {c : Client} {past : List Exchange} {r : Request} {a : Reply}

/-- What goes out first is the request itself. -/
theorem head?_sent (h : c.Laws) (past : List Exchange) (r : Request) :
    ∀ q ∈ (c.exchange past r).sent.head?, q = r := by
  intro q hq
  rw [Exchange.sent, List.head?_map] at hq
  obtain ⟨hop, hhop, rfl⟩ := Option.map_eq_some_iff.1 hq
  exact h.first past r hop hhop

/-- **A request goes out at most once**, as long as no answer redirects
it. -/
theorem sent_of_isDirect (h : c.Laws) (hdirect : (c.exchange past r).IsDirect) :
    (c.exchange past r).sent = [] ∨ (c.exchange past r).sent = [r] := by
  have hfirst := h.head?_sent past r
  have hchain := h.redirected past r
  unfold Exchange.sent at hfirst ⊢
  cases hhops : (c.exchange past r).hops with
  | nil => exact .inl rfl
  | cons hop hops =>
    rw [hhops] at hfirst hchain
    cases hops with
    | nil => exact .inr (congrArg (· :: []) (hfirst _ rfl))
    | cons next hops =>
      have hredirected : hop.IsRedirected := (List.isChain_cons_cons.1 hchain).1
      exact absurd hredirected (hdirect hop (hhops ▸ List.mem_cons_self))

/-- An answer is one to a request that went out. -/
theorem sent_ne_nil (h : c.Laws) (ha : (c.exchange past r).answer = some a) :
    (c.exchange past r).sent ≠ [] := by
  obtain ⟨hop, hhop, -⟩ := h.answered past r a ha
  have hmem := List.mem_of_getLast? hhop
  exact List.ne_nil_of_mem (List.mem_map_of_mem hmem)

end Client.Laws

/-! ## A client that is sent on -/

/-- A request that is sent on to some addresses before it is answered. -/
def hopsTo (reply : Reply) (r : Request) : List String → List Hop
  | [] => [{ request := r, answer := some reply }]
  | url :: urls =>
    { request := r, answer := some { status := 307, location := some url, body := .empty } } ::
      hopsTo reply { r with url } urls

/-- A client that finds one address, where it is sent on to some others
and then given an answer. -/
def Client.finding (address : String) (others : List String) (reply : Reply) : Client where
  accepts := fun url => url == address
  exchange := fun _ r =>
    if r.url == address then { hops := hopsTo reply r others, answer := some reply } else {}
  text := Client.offline.text

theorem head?_hopsTo (reply : Reply) (r : Request) (urls : List String) :
    ∃ answer, (hopsTo reply r urls).head? = some { request := r, answer } := by
  cases urls <;> exact ⟨_, rfl⟩

theorem isChain_hopsTo (reply : Reply) (r : Request) (urls : List String) :
    (hopsTo reply r urls).IsChain fun h _ => h.IsRedirected := by
  induction urls generalizing r with
  | nil => exact .singleton _
  | cons url urls ih =>
    have hstatus : 307 ∈ [301, 302, 303, 307, 308] := by decide
    exact List.isChain_cons.2 ⟨fun _ _ => ⟨_, rfl, hstatus, rfl⟩, ih _⟩

theorem getLast?_hopsTo (reply : Reply) (r : Request) (urls : List String) :
    ∃ h ∈ (hopsTo reply r urls).getLast?, h.answer = some reply := by
  induction urls generalizing r with
  | nil => exact ⟨_, rfl, rfl⟩
  | cons url urls ih =>
    obtain ⟨h, hlast, ha⟩ := ih { r with url }
    exact ⟨h, List.mem_getLast?_cons hlast, ha⟩

theorem Client.text_offline (text : String) : Client.offline.text text.toUTF8 = text := by
  have hread : String.fromUTF8? text.toUTF8 = some text := dif_pos text.isValidUTF8
  exact congrArg (·.getD "") hread

/-- **Such a client keeps to the laws.** -/
theorem Client.laws_finding (address : String) (others : List String) (reply : Reply) :
    (Client.finding address others reply).Laws := by
  have hexchange (past : List Exchange) (r : Request) :
      (Client.finding address others reply).exchange past r =
        if r.url == address then { hops := hopsTo reply r others, answer := some reply } else {} :=
    rfl
  refine ⟨fun past r h => ?_, fun past r h hh => ?_, fun past r => ?_, fun past r a ha => ?_,
    Client.text_offline⟩
  · exact if_neg (Bool.not_eq_true _ ▸ h)
  · rw [hexchange] at hh
    split at hh
    · obtain ⟨answer, hhead⟩ := head?_hopsTo reply r others
      exact (Option.some.inj (hhead.symm.trans hh)) ▸ rfl
    · cases hh
  · rw [hexchange]
    split
    · exact isChain_hopsTo reply r others
    · exact .nil
  · rw [hexchange] at ha ⊢
    split at ha
    · next h =>
      obtain rfl := Option.some.inj ha
      rw [if_pos h]
      exact getLast?_hopsTo reply r others
    · cases ha

end Web

end Flowchart
