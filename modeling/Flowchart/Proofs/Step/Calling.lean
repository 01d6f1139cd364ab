import Flowchart.Proofs.Success
import Flowchart.Proofs.Template.Reference
import Flowchart.Step.Call

/-!
# What a call asks for

The request of a call is described by its configuration and its state
alone (`Describes`): the address and the headers are filled in, the last
spelling of a header counts, and the body has the keys of its mapping. No
part of it is at fault (`Faulty`) exactly if it is put together and the
client accepts its address, and every part is looked at before the client
is given anything.
-/

namespace Flowchart

namespace Step

namespace Call

/-! ## Headers -/

/-- **The value of a header may be sent**: no character of it is a control
character of the first 128, but for the tab; so no line ends in it. -/
def Unbroken (value : String) : Prop :=
  ∀ c ∈ value.toList, c = '\t' ∨ 32 ≤ c.toNat ∧ c.toNat ≠ 127

/-- A configured text, filled in, is this one. -/
def Renders (c : NodeConfig) (state : StateMap) (key text : String) : Prop :=
  ∃ text?, c.text? key = .ok text? ∧ Template.render (text?.getD "") state = text

/-- **A header may be sent**: its key is a name of headers, and its text
can be read and may be sent. -/
structure Sendable (c : NodeConfig) (state : StateMap) (key : String) : Prop where
  name : Web.isToken key = true
  value : ∃ value, Renders c state key value ∧ Unbroken value

/-- **A header is configured** by some keys: the last of them that is its
name in lower case has its value. -/
inductive Configured (c : NodeConfig) (state : StateMap) :
    List String → String → String → Prop where
  /-- By the first key, as no other one has its name. -/
  | first {key : String} {keys : List String} {value : String} (h : Renders c state key value)
    (hlast : ∀ k ∈ keys, Web.lowerCase k ≠ Web.lowerCase key) :
    Configured c state (key :: keys) (Web.lowerCase key) value
  /-- By one of the other keys. -/
  | later {key : String} {keys : List String} {name value : String}
    (h : Configured c state keys name value) : Configured c state (key :: keys) name value

variable {c names : NodeConfig} {state : StateMap} {key name value : String} {keys : List String}
variable {acc hs : SortedMap String} {mapping : Json.Entries} {r : Web.Request} {e : Error}
variable {client : Web.Client}

theorem isHeaderValue_iff : Web.isHeaderValue value = true ↔ Unbroken value := by
  simp only [Web.isHeaderValue, Unbroken, List.all_eq_true, Bool.or_eq_true, Bool.and_eq_true,
    beq_iff_eq, bne_iff_ne, decide_eq_true_eq]

theorem Renders.unique {text text' : String} (h : Renders c state key text)
    (h' : Renders c state key text') : text = text' := by
  obtain ⟨t, ht, rfl⟩ := h
  obtain ⟨t', ht', rfl⟩ := h'
  obtain rfl := Except.ok.inj (ht.symm.trans ht')
  rfl

/-- A configured header has one of the keys. -/
theorem Configured.exists_key (h : Configured c state keys name value) :
    ∃ key ∈ keys, Web.lowerCase key = name ∧ Renders c state key value := by
  induction h with
  | first h => exact ⟨_, List.mem_cons_self, rfl, h⟩
  | later h ih =>
    obtain ⟨key, hkey, hname, hvalue⟩ := ih
    exact ⟨key, List.mem_cons_of_mem _ hkey, hname, hvalue⟩

/-- Of two keys in front of others the first one counts only if none of the
others has its name. -/
theorem configured_cons_iff (h : Renders c state key value) {name' value' : String} :
    Configured c state (key :: keys) name' value' ↔
      Configured c state keys name' value' ∨
        (∀ k ∈ keys, Web.lowerCase k ≠ name') ∧ Web.lowerCase key = name' ∧ value = value' := by
  constructor
  · intro hconf
    cases hconf with
    | first h' hlast => exact .inr ⟨hlast, rfl, h.unique h'⟩
    | later h' => exact .inl h'
  · rintro (h' | ⟨hlast, rfl, rfl⟩)
    · exact .later h'
    · exact .first h hlast

/-- **The headers of some keys** may all be sent, and are those that the
keys configure, over those that were there. -/
theorem headers_ok (h : headers c state keys acc = .ok hs) :
    (∀ key ∈ keys, Sendable c state key) ∧
    ∀ name value, hs.find? name = some value ↔ Configured c state keys name value ∨
      (∀ k ∈ keys, Web.lowerCase k ≠ name) ∧ acc.find? name = some value := by
  induction keys generalizing acc with
  | nil =>
    obtain rfl := Except.ok.inj h
    refine ⟨by simp, fun name value => ⟨fun hv => .inr ⟨by simp, hv⟩, ?_⟩⟩
    rintro (hconf | ⟨-, hv⟩)
    · cases hconf
    · exact hv
  | cons key keys ih =>
    obtain ⟨text?, htext, h⟩ := bind_eq_ok_iff.1 h
    replace htext : c.text? key = .ok text? := mapError_eq_ok_iff.1 htext
    have hrenders : Renders c state key (Template.render (text?.getD "") state) :=
      ⟨text?, htext, rfl⟩
    simp only at h
    split at h
    · next hvalid =>
      obtain ⟨hname, hvalue⟩ := Bool.and_eq_true_iff.1 hvalid
      obtain ⟨hsendable, hfind⟩ := ih h
      refine ⟨List.forall_mem_cons.2 ⟨⟨hname, _, hrenders, isHeaderValue_iff.1 hvalue⟩, hsendable⟩,
        fun name value => ?_⟩
      rw [hfind, configured_cons_iff hrenders, SortedMap.find?_insert, or_assoc]
      refine or_congr_right ?_
      -- without a later key of this name, the value is that of the first key or was there
      by_cases hkey : Web.lowerCase key = name
      · simp [hkey]
      · simp [hkey]
    · cases h

/-- **Headers that may all be sent are put together.** -/
theorem exists_headers (h : ∀ key ∈ keys, Sendable c state key) (acc : SortedMap String) :
    ∃ hs, headers c state keys acc = .ok hs := by
  induction keys generalizing acc with
  | nil => exact ⟨acc, rfl⟩
  | cons key keys ih =>
    obtain ⟨⟨hname, value, ⟨text?, htext, rfl⟩, hvalue⟩, hrest⟩ := List.forall_mem_cons.1 h
    obtain ⟨hs, hhs⟩ := ih hrest (acc.insert (Web.lowerCase key)
      (Template.render (text?.getD "") state))
    refine ⟨hs, ?_⟩
    rw [headers, htext]
    simp only [configured_ok, bind, Except.bind, hname, isHeaderValue_iff.2 hvalue, Bool.and_self,
      if_true]
    exact hhs

/-! ## Bodies -/

/-- **What a value of the mapping becomes**: the value of the variable that
it refers to, or what it is. -/
inductive Filled (state : StateMap) : Json → Json → Prop where
  /-- It is a reference to a variable. -/
  | referred {name : String} {value : Json} (hname : Template.Referable name)
    (h : state.find? name = some value) : Filled state (.string (Template.reference name)) value
  /-- It is no reference to a variable. -/
  | verbatim {value : Json} (h : ∀ name, Template.Referable name →
      value = .string (Template.reference name) → state.find? name = none) :
    Filled state value value

/-- **The entries of a body** have the keys of the mapping, in its order,
and what becomes of its values. -/
def FilledEntries (state : StateMap) (mapping entries : Json.Entries) : Prop :=
  List.Forall₂ (fun e f => f.1 = e.1 ∧ Filled state e.2 f.2) mapping entries

/-- A text becomes the value that it refers to. -/
theorem filled_text (state : StateMap) (text : String) :
    Filled state (.string text) ((Template.referenced? text state).getD (.string text)) := by
  cases h : Template.referenced? text state with
  | some value =>
    obtain ⟨name, hbare, hfind⟩ := Option.bind_eq_some_iff.1 h
    obtain ⟨hname, rfl⟩ := Template.bareReference?_eq_some_iff.1 hbare
    exact .referred hname hfind
  | none =>
    refine .verbatim fun name hname htext => ?_
    obtain rfl := Json.string.inj htext
    rw [← Template.referenced?_reference hname, h]

/-- **The body of a mapping.** -/
theorem exists_filledEntries (mapping : Json.Entries) (state : StateMap) :
    ∃ entries, body mapping state = .object entries ∧ FilledEntries state mapping entries := by
  refine ⟨_, rfl, List.forall₂_map_right_iff.2 (List.forall₂_same.2 fun e _ => ⟨rfl, ?_⟩)⟩
  cases h : e.2 with
  | string text => exact filled_text state text
  | _ => exact .verbatim fun name _ heq => by cases heq

/-! ## Requests -/

/-- The text in upper case, as far as its letters are those of English. -/
def upperCase (text : String) : String :=
  String.ofList (text.toList.map Char.toUpper)

/-- **A part of the request is at fault**: it is of the wrong type, or it
cannot be sent by the client. -/
inductive Faulty (client : Web.Client) (c : NodeConfig) (state : StateMap) : Prop where
  /-- The address is no text. -/
  | url {e : NodeConfig.Error} (h : c.text? "apiUrl" = .error e)
  /-- The client does not accept the address. -/
  | address {url : String} (h : Renders c state "apiUrl" url) (ha : client.accepts url = false)
  /-- The method is no text. -/
  | methodType {e : NodeConfig.Error} (h : c.textOr "method" "GET" = .error e)
  /-- Requests are not sent by the method. -/
  | method {text : String} (h : c.textOr "method" "GET" = .ok text)
    (hm : ∀ m : Web.Method, m.text ≠ upperCase text)
  /-- The variable for the answer is no text. -/
  | key {e : NodeConfig.Error} (h : c.textOr "responseStateKey" defaultKey = .error e)
  /-- The headers are no object. -/
  | headers {e : NodeConfig.Error} (h : c.section? "headers" = .error e)
  /-- A header may not be sent. -/
  | header {names : NodeConfig} {key : String} (h : c.section? "headers" = .ok names)
    (hkey : key ∈ names.keys) (hh : ¬ Sendable names state key)
  /-- The method asks for a body and the mapping is no object. -/
  | body {text : String} {m : Web.Method} {e : NodeConfig.Error}
    (h : c.textOr "method" "GET" = .ok text) (hm : m.text = upperCase text)
    (hbody : m.hasBody = true) (hb : c.object? "bodyMapping" = .error e)

/-- **The request that a configuration describes** in a state, and the
variable for its answer. -/
structure Describes (c : NodeConfig) (state : StateMap) (r : Web.Request) (key : String) :
    Prop where
  /-- The address is the configured one, filled in. -/
  url : Renders c state "apiUrl" r.url
  /-- The method is the configured one, in upper case. -/
  method : ∃ text, c.textOr "method" "GET" = .ok text ∧ r.method.text = upperCase text
  /-- The variable is the configured one. -/
  key : c.textOr "responseStateKey" defaultKey = .ok key
  /-- The headers are the configured ones, under their names in lower case,
  and the type of a body that no header names. -/
  headers : ∃ names, c.section? "headers" = .ok names ∧
    (∀ key ∈ names.keys, Sendable names state key) ∧
    ∀ name value, r.headers.find? name = some value ↔
      Configured names state names.keys name value ∨
        r.method.hasBody = true ∧ (∀ key ∈ names.keys, Web.lowerCase key ≠ name) ∧
          name = "content-type" ∧ value = "application/json"
  /-- Every header may be sent. -/
  unbroken : ∀ name value, r.headers.find? name = some value → Unbroken value
  /-- A method that asks for a body sends the filled mapping. -/
  body : r.method.hasBody = true → ∃ mapping? entries, c.object? "bodyMapping" = .ok mapping? ∧
    FilledEntries state (mapping?.getD []) entries ∧ r.body = (Json.object entries).compact
  /-- Another method sends no body. -/
  bodiless : r.method.hasBody = false → r.body = ""

theorem method?_eq_ok_iff {text : String} {m : Web.Method} :
    method? text = .ok m ↔ m.text = upperCase text := by
  have hupper : String.ofList (text.toList.map Char.toUpper) = upperCase text := rfl
  unfold method?
  rw [hupper]
  generalize upperCase text = upper
  constructor
  · intro h
    cases hfound : Web.Method.ofText? upper with
    | none => simp only [hfound, reduceCtorEq] at h
    | some m' =>
      simp only [hfound] at h
      obtain rfl := Except.ok.inj h
      simpa using List.find?_some hfound
  · rintro rfl
    cases m <;> rfl

theorem unbroken_of_sendable (hnames : ∀ key ∈ names.keys, Sendable names state key)
    (h : Configured names state names.keys name value) : Unbroken value := by
  obtain ⟨key, hkey, -, hrenders⟩ := h.exists_key
  obtain ⟨-, value', hrenders', hvalue⟩ := hnames key hkey
  exact hrenders.unique hrenders' ▸ hvalue

/-- The headers of a request with a body name its type, unless they did
so before. -/
theorem find?_withBody {document : Json} :
    (withBody r document).headers.find? name = some value ↔
      r.headers.find? name = some value ∨
        r.headers.find? "content-type" = none ∧ name = "content-type" ∧
          value = "application/json" := by
  cases htype : r.headers.find? "content-type" with
  | some type =>
    have hheaders : (withBody r document).headers = r.headers := by
      simp only [withBody, htype, Option.isSome_some, if_true]
    simp [hheaders]
  | none =>
    have hheaders : (withBody r document).headers =
        r.headers.insert "content-type" "application/json" := by
      simp only [withBody, htype, Option.isSome_none, Bool.false_eq_true, if_false]
    rw [hheaders, SortedMap.find?_insert]
    by_cases hname : "content-type" = name
    · subst hname
      simp [htype, eq_comm]
    · simp [hname, Ne.symm hname]

/-- A name that some key has is configured. -/
theorem exists_configured (h : ∀ key ∈ keys, Sendable c state key)
    (hname : ∃ key ∈ keys, Web.lowerCase key = name) :
    ∃ value, Configured c state keys name value := by
  induction keys with
  | nil => simp at hname
  | cons key keys ih =>
    obtain ⟨⟨-, value, hrenders, -⟩, hrest⟩ := List.forall_mem_cons.1 h
    by_cases hlater : ∃ k ∈ keys, Web.lowerCase k = name
    · obtain ⟨value', hvalue'⟩ := ih hrest hlater
      exact ⟨value', .later hvalue'⟩
    · obtain ⟨k, hk, rfl⟩ := hname
      obtain rfl : k = key := (List.mem_cons.1 hk).resolve_right fun hk => hlater ⟨k, hk, rfl⟩
      exact ⟨value, .first hrenders fun k' hk' heq => hlater ⟨k', hk', heq⟩⟩

/-- **The headers of a configuration**: a name has a value if a key
configures it. -/
theorem find?_headers (h : headers c state keys .empty = .ok hs) :
    hs.find? name = some value ↔ Configured c state keys name value := by
  rw [(headers_ok h).2]
  simp

/-- A name has no value if no key has it. -/
theorem find?_headers_eq_none (h : headers c state keys .empty = .ok hs) :
    hs.find? name = none ↔ ∀ key ∈ keys, Web.lowerCase key ≠ name := by
  rw [Option.eq_none_iff_forall_ne_some]
  constructor
  · intro hnone key hkey hname
    obtain ⟨value, hvalue⟩ := exists_configured (headers_ok h).1 ⟨key, hkey, hname⟩
    exact hnone value ((find?_headers h).2 hvalue)
  · intro hkeys value hvalue
    obtain ⟨key, hkey, hname, -⟩ := ((find?_headers h).1 hvalue).exists_key
    exact hkeys key hkey hname

/-- **A request that is put together is the one that is described.** -/
theorem describes_of_request (h : request c state = .ok (r, key)) : Describes c state r key := by
  obtain ⟨url?, hurl, h⟩ := bind_eq_ok_iff.1 h
  obtain ⟨text, htext, h⟩ := bind_eq_ok_iff.1 h
  obtain ⟨method, hmethod, h⟩ := bind_eq_ok_iff.1 h
  obtain ⟨key', hkey, h⟩ := bind_eq_ok_iff.1 h
  obtain ⟨names, hnames, h⟩ := bind_eq_ok_iff.1 h
  obtain ⟨hs, hhs, h⟩ := bind_eq_ok_iff.1 h
  have hurl : Renders c state "apiUrl" (Template.render (url?.getD "") state) :=
    ⟨url?, mapError_eq_ok_iff.1 hurl, rfl⟩
  have hmethod : ∃ text, c.textOr "method" "GET" = .ok text ∧ method.text = upperCase text :=
    ⟨text, mapError_eq_ok_iff.1 htext, method?_eq_ok_iff.1 hmethod⟩
  have hkey : c.textOr "responseStateKey" defaultKey = .ok key' := mapError_eq_ok_iff.1 hkey
  have hnames : c.section? "headers" = .ok names := mapError_eq_ok_iff.1 hnames
  have hsendable := (headers_ok hhs).1
  have hunbroken : ∀ name value, hs.find? name = some value → Unbroken value :=
    fun name value hv => unbroken_of_sendable hsendable ((find?_headers hhs).1 hv)
  split at h
  · next hbody =>
    obtain ⟨mapping?, hmapping, h⟩ := bind_eq_ok_iff.1 h
    obtain ⟨rfl, rfl⟩ := Prod.mk.inj (Except.ok.inj h)
    obtain ⟨entries, hentries, hfilled⟩ := exists_filledEntries (mapping?.getD []) state
    refine ⟨hurl, hmethod, hkey, ⟨names, hnames, hsendable, fun name value => ?_⟩,
      fun name value hv => ?_, fun _ => ?_, fun hnone => ?_⟩
    · -- the type is named where no key of the headers does so
      rw [find?_withBody, find?_headers hhs, find?_headers_eq_none hhs]
      refine or_congr_right ⟨?_, ?_⟩
      · rintro ⟨hkeys, rfl, rfl⟩
        exact ⟨hbody, hkeys, rfl, rfl⟩
      · rintro ⟨-, hkeys, rfl, rfl⟩
        exact ⟨hkeys, rfl, rfl⟩
    · obtain hv | ⟨-, -, rfl⟩ := find?_withBody.1 hv
      · exact hunbroken name value hv
      · exact isHeaderValue_iff.1 (by decide +kernel)
    · refine ⟨mapping?, entries, mapError_eq_ok_iff.1 hmapping, hfilled, ?_⟩
      rw [← hentries]
      rfl
    · cases hbody.symm.trans hnone
  · next hbody =>
    obtain ⟨rfl, rfl⟩ := Prod.mk.inj (Except.ok.inj h)
    refine ⟨hurl, hmethod, hkey, ⟨names, hnames, hsendable, fun name value => ?_⟩,
      hunbroken, fun hyes => absurd hyes hbody, fun _ => rfl⟩
    rw [find?_headers hhs]
    simp [hbody]

/-- **What is described has no part at fault**, if the client accepts its
address. -/
theorem Describes.not_faulty (h : Describes c state r key) (ha : client.accepts r.url = true) :
    ¬ Faulty client c state := by
  obtain ⟨text, htext, hmethod⟩ := h.method
  obtain ⟨names, hnames, hsendable, -⟩ := h.headers
  intro hfaulty
  cases hfaulty with
  | url hbad =>
    obtain ⟨url?, hurl, -⟩ := h.url
    cases hurl.symm.trans hbad
  | address hbad haddress =>
    obtain rfl := hbad.unique h.url
    cases haddress.symm.trans ha
  | methodType hbad => cases htext.symm.trans hbad
  | method hbad hm =>
    obtain rfl := Except.ok.inj (htext.symm.trans hbad)
    exact hm _ hmethod
  | key hbad => cases h.key.symm.trans hbad
  | headers hbad => cases hnames.symm.trans hbad
  | header hbad hkey hbadHeader =>
    obtain rfl := Except.ok.inj (hnames.symm.trans hbad)
    exact hbadHeader (hsendable _ hkey)
  | body hbad hm hbody hmapping =>
    obtain rfl := Except.ok.inj (htext.symm.trans hbad)
    have heq := (method?_eq_ok_iff.2 hm).symm.trans (method?_eq_ok_iff.2 hmethod)
    obtain rfl := Except.ok.inj heq
    obtain ⟨mapping?, entries, hok, -⟩ := h.body hbody
    cases hok.symm.trans hmapping

/-- A look-up that gives nothing wrong gives something. -/
theorem exists_ok {ε α : Type} {x : Except ε α} (h : ∀ e, x ≠ .error e) : ∃ a, x = .ok a := by
  cases x with
  | ok a => exact ⟨a, rfl⟩
  | error e => exact absurd rfl (h e)

/-- **Without a fault there is a request**, to an address that the client
accepts. -/
theorem exists_request (h : ¬ Faulty client c state) :
    ∃ r key, request c state = .ok (r, key) ∧ client.accepts r.url = true := by
  obtain ⟨url?, hurl⟩ := exists_ok fun e he => h (.url he)
  obtain ⟨text, htext⟩ := exists_ok fun e he => h (.methodType he)
  obtain ⟨key, hkey⟩ := exists_ok fun e he => h (.key he)
  obtain ⟨names, hnames⟩ := exists_ok fun e he => h (.headers he)
  obtain ⟨m, hm⟩ : ∃ m : Web.Method, m.text = upperCase text := by
    by_contra hnone
    exact h (.method htext fun m hm => hnone ⟨m, hm⟩)
  have hmethod : method? text = .ok m := method?_eq_ok_iff.2 hm
  have haddress : client.accepts (Template.render (url?.getD "") state) = true := by
    by_contra hnone
    exact h (.address ⟨url?, hurl, rfl⟩ (Bool.not_eq_true _ ▸ hnone))
  have hsendable : ∀ key ∈ names.keys, Sendable names state key :=
    fun key hkey => by_contra fun hbad => h (.header hnames hkey hbad)
  obtain ⟨hs, hhs⟩ := exists_headers hsendable .empty
  unfold request
  rw [hurl, htext, hkey, hnames]
  simp only [configured_ok, bind, Except.bind, hmethod, hhs]
  split
  · next hbody =>
    obtain ⟨mapping?, hmapping⟩ := exists_ok fun e he => h (.body htext hm hbody he)
    rw [hmapping]
    exact ⟨_, _, rfl, haddress⟩
  · exact ⟨_, _, rfl, haddress⟩

/-! ## Answers -/

variable (input : Input) {n : Web.Network} {a : Web.Response}

/-- A call that puts no request together fails, and the client is given
nothing. -/
theorem execute_of_request_error (n : Web.Network)
    (h : request input.config input.state = .error e) :
    call.execute input n = (call.conclude (.error e), n) := by
  have hrun : run input n = (.error e, n) := by rw [run, h]
  exact congrArg (fun p => (call.conclude p.1, p.2)) hrun

/-- A call without an answer fails. -/
theorem execute_of_unanswered (h : request input.config input.state = .ok (r, key))
    (ha : (n.send r).1 = none) :
    call.execute input n = (call.conclude (.error .request), (n.send r).2) := by
  have hsend : n.send r = (none, (n.send r).2) := Prod.ext ha rfl
  have hrun : run input n = (.error .request, (n.send r).2) := by
    rw [run, h]
    simp only
    rw [hsend]
  exact congrArg (fun p => (call.conclude p.1, p.2)) hrun

/-- **A call makes its result of the answer** to its request. -/
theorem execute_of_answered (h : request input.config input.state = .ok (r, key))
    (ha : (n.send r).1 = some a) : call.execute input n = (answered r key a, (n.send r).2) := by
  have hsend : n.send r = (some a, (n.send r).2) := Prod.ext ha rfl
  have hrun : run input n = (.ok (answered r key a), (n.send r).2) := by
    rw [run, h]
    simp only
    rw [hsend]
  exact congrArg (fun p => (call.conclude p.1, p.2)) hrun

end Call

end Step

end Flowchart
