import Xygo.Analysis.EmailSpec
import Xygo.Analysis.PageTraversal
import Xygo.Computation.Html
import Xygo.Model.Urls

/-!
# The markup of an email

What a person wrote into an email is read back as it was: the document is read into the elements of
the template, with the person's texts as text and the link as the value of `href`, and the subject is
one line. The link is a web address without credentials; it is without a fragment unless the
fragment is empty, which the check of `hash` does not see.
-/

set_option autoImplicit false

namespace Xygo.Analysis

open Xygo.Computation
open Xygo.Model

/-! ### Escaped texts -/

/-- What `escapeHtml` makes of a character. -/
def escapeChar (c : Char) : List Char :=
  if c = '&' then ['&', 'a', 'm', 'p', ';']
  else if c = '<' then ['&', 'l', 't', ';']
  else if c = '>' then ['&', 'g', 't', ';']
  else if c = '"' then ['&', 'q', 'u', 'o', 't', ';']
  else if c = Char.ofNat 39 then ['&', '#', '3', '9', ';']
  else [c]

theorem toList_escapeHtml (value : String) :
    (Email.escapeHtml value).toList = value.toList.flatMap escapeChar := by
  unfold Email.escapeHtml
  rw [String.toList_join, List.flatMap_map]
  refine congrArg (value.toList.flatMap ·) (funext fun c => ?_)
  split
  · rfl
  · rfl
  · rfl
  · rfl
  · rfl
  · rename_i hamp hlt hgt hquot hapos
    rw [escapeChar, if_neg hamp, if_neg hlt, if_neg hgt, if_neg hquot, if_neg hapos,
      String.toList_singleton]

/-- Every character is written as itself or as a reference to it. -/
theorem undone_escapeChar : Undone escapeChar := by
  intro c
  unfold escapeChar
  split
  · rename_i h
    exact Or.inr ⟨['a', 'm', 'p'], rfl, by simp [isReferenceChar, Char.isAlphanum], h ▸ rfl⟩
  split
  · rename_i h
    exact Or.inr ⟨['l', 't'], rfl, by simp [isReferenceChar, Char.isAlphanum], h ▸ rfl⟩
  split
  · rename_i h
    exact Or.inr ⟨['g', 't'], rfl, by simp [isReferenceChar, Char.isAlphanum], h ▸ rfl⟩
  split
  · rename_i h
    exact Or.inr ⟨['q', 'u', 'o', 't'], rfl, by simp [isReferenceChar, Char.isAlphanum], h ▸ rfl⟩
  split
  · rename_i h
    exact Or.inr ⟨['#', '3', '9'], rfl, by simp [isReferenceChar, Char.isAlphanum], h ▸ rfl⟩
  · rename_i hamp _ _ _ _
    exact Or.inl ⟨rfl, hamp⟩

/-- No character of an escaped text acts as markup. -/
theorem escapeChar_plain (c : Char) : '<' ∉ escapeChar c ∧ '"' ∉ escapeChar c := by
  unfold escapeChar
  split
  · decide
  split
  · decide
  split
  · decide
  split
  · decide
  split
  · decide
  · rename_i _ hlt _ hquot _
    simp [Ne.symm hlt, Ne.symm hquot]

theorem escapeHtml_plain (value : String) :
    '<' ∉ (Email.escapeHtml value).toList ∧ '"' ∉ (Email.escapeHtml value).toList := by
  rw [toList_escapeHtml]
  constructor
  · intro h
    obtain ⟨c, -, hc⟩ := List.mem_flatMap.mp h
    exact (escapeChar_plain c).1 hc
  · intro h
    obtain ⟨c, -, hc⟩ := List.mem_flatMap.mp h
    exact (escapeChar_plain c).2 hc

theorem unescape_escapeHtml_append (value : String) (rest : List Char) :
    unescape ((Email.escapeHtml value).toList ++ rest) = value.toList ++ unescape rest := by
  rw [toList_escapeHtml]
  exact unescape_encode_append undone_escapeChar value.toList rest

/-- The text of an escaped text is the text. -/
theorem unescape_escapeHtml (value : String) :
    unescape (Email.escapeHtml value).toList = value.toList := by
  have happend := unescape_escapeHtml_append value []
  rw [List.append_nil] at happend
  exact happend.trans (List.append_nil _)

theorem escapeHtml_ne_nil {value : String} (h : value ≠ "") :
    (Email.escapeHtml value).toList ≠ [] := by
  intro hnil
  have htext := unescape_escapeHtml value
  rw [hnil] at htext
  exact h (String.toList_eq_nil_iff.mp htext.symm)

/-! ### The document -/

/-- The tokens of an email; the texts and the link are raw. -/
def emailTokens (name heading summary link : List Char) : List HtmlToken :=
  [.startTag "p".toList [], .text ("Hello ".toList ++ name ++ ",".toList), .endTag "p".toList,
    .startTag "h1".toList [], .text heading, .endTag "h1".toList,
    .startTag "p".toList [], .text summary, .endTag "p".toList,
    .startTag "p".toList [], .startTag "a".toList [("href".toList, link)],
    .text "Open Xygo".toList, .endTag "a".toList, .endTag "p".toList,
    .startTag "p".toList [], .text "This is an automated operational message.".toList,
    .endTag "p".toList]

/-- The elements of an email. -/
def emailNodes (name heading summary link : String) : List HtmlNode :=
  [.element "p".toList [] [.text ("Hello " ++ name ++ ",").toList],
    .element "h1".toList [] [.text heading.toList],
    .element "p".toList [] [.text summary.toList],
    .element "p".toList []
      [.element "a".toList [("href".toList, link.toList)] [.text "Open Xygo".toList]],
    .element "p".toList [] [.text "This is an automated operational message.".toList]]

/-- The document of an email. -/
def emailHtml (name heading summary link : String) : String :=
  String.join [
    "<p>Hello " ++ Email.escapeHtml name ++ ",</p>",
    "<h1>" ++ Email.escapeHtml heading ++ "</h1>",
    "<p>" ++ Email.escapeHtml summary ++ "</p>",
    "<p><a href=\"" ++ Email.escapeHtml link ++ "\">Open Xygo</a></p>",
    "<p>This is an automated operational message.</p>"]

/-- The document is its tokens written out. -/
theorem toList_emailHtml (name heading summary link : String) :
    (emailHtml name heading summary link).toList =
      (emailTokens (Email.escapeHtml name).toList (Email.escapeHtml heading).toList
        (Email.escapeHtml summary).toList (Email.escapeHtml link).toList).flatMap
          HtmlToken.render := by
  rw [emailHtml, String.toList_join]
  simp [emailTokens, HtmlToken.render, renderAttribute]

theorem isName_p : IsName "p".toList := ⟨⟨'p', [], rfl, rfl⟩, by simp [isNameChar, Char.isLower]⟩

theorem isName_h1 : IsName "h1".toList :=
  ⟨⟨'h', ['1'], rfl, rfl⟩, by simp [isNameChar, Char.isLower, Char.isDigit]⟩

theorem isName_a : IsName "a".toList := ⟨⟨'a', [], rfl, rfl⟩, by simp [isNameChar, Char.isLower]⟩

theorem isName_href : IsName "href".toList :=
  ⟨⟨'h', ['r', 'e', 'f'], rfl, rfl⟩, by simp [isNameChar, Char.isLower]⟩

/-- The tokens of escaped texts are read as they are written. -/
theorem emailTokens_plain (name link : String) {heading summary : String} (hheading : heading ≠ "")
    (hsummary : summary ≠ "") :
    ∀ token ∈ emailTokens (Email.escapeHtml name).toList (Email.escapeHtml heading).toList
      (Email.escapeHtml summary).toList (Email.escapeHtml link).toList, token.Plain := by
  have hname := (escapeHtml_plain name).1
  have hhref : ∀ pair ∈ [("href".toList, (Email.escapeHtml link).toList)],
      IsName pair.1 ∧ '"' ∉ pair.2 :=
    List.forall_mem_singleton.mpr ⟨isName_href, (escapeHtml_plain link).2⟩
  have hnone : ∀ pair ∈ ([] : List (List Char × List Char)), IsName pair.1 ∧ '"' ∉ pair.2 :=
    List.forall_mem_nil _
  simp only [emailTokens, List.forall_mem_cons]
  refine ⟨⟨isName_p, hnone⟩, ⟨by simp, by simp [hname]⟩, isName_p, ⟨isName_h1, hnone⟩,
    ⟨escapeHtml_ne_nil hheading, (escapeHtml_plain heading).1⟩, isName_h1, ⟨isName_p, hnone⟩,
    ⟨escapeHtml_ne_nil hsummary, (escapeHtml_plain summary).1⟩, isName_p, ⟨isName_p, hnone⟩,
    ⟨isName_a, hhref⟩, ⟨by simp, by simp⟩, isName_a, isName_p, ⟨isName_p, hnone⟩,
    ⟨by simp, by simp⟩, isName_p, List.forall_mem_nil _⟩

/-- No text follows a text. -/
theorem emailTokens_apart (name heading summary link : List Char) :
    (emailTokens name heading summary link).IsChain HtmlToken.Apart := by
  simp [emailTokens, HtmlToken.Apart]

/-- **The document of an email is read into the elements of the template.** -/
theorem parseHtml_emailHtml (name link : String) {heading summary : String}
    (hheading : heading ≠ "") (hsummary : summary ≠ "") :
    parseHtml (emailHtml name heading summary link).toList =
      some (emailNodes name heading summary link) := by
  have hgreeting : unescape ("Hello ".toList ++ (Email.escapeHtml name).toList ++ ",".toList) =
      ("Hello " ++ name ++ ",").toList := by
    rw [List.append_assoc, unescape_plain_append (by simp), unescape_escapeHtml_append,
      unescape_plain (by simp)]
    simp
  have hopen : unescape "Open Xygo".toList = "Open Xygo".toList := unescape_plain (by simp)
  have hlast : unescape "This is an automated operational message.".toList =
      "This is an automated operational message.".toList := unescape_plain (by simp)
  rw [parseHtml, toList_emailHtml,
    tokenize_render (emailTokens_plain name link hheading hsummary) (emailTokens_apart _ _ _ _)]
  simp only [emailTokens, nest, hgreeting, hopen, hlast, unescape_escapeHtml, List.map_cons,
    List.map_nil, List.nil_append, if_true, emailNodes, List.cons_append]

/-! ### The link -/

/-- The scheme of a link: what is before the first colon. -/
def schemeOf (link : String) : String := String.ofList (link.toList.takeWhile fun c => c ≠ ':')

/-- The authority of a link: what is behind the two slashes, to the path, the query or the
fragment. -/
def authorityOf (link : String) : List Char :=
  match (link.toList.dropWhile fun c => c ≠ ':').drop 1 with
  | '/' :: '/' :: rest => rest.takeWhile fun c => !endsAuthority c
  | _ => []

/-- A web address without credentials or a fragment. -/
structure SafeLink (link : String) : Prop where
  web : schemeOf link ∈ webSchemes
  host : authorityOf link ≠ []
  credentials : '@' ∉ authorityOf link
  fragment : '#' ∉ link.toList

/-- The characters of a port neither end an authority nor end credentials. -/
theorem port_plain (port : Nat) :
    ∀ c ∈ (toString port).toList, endsAuthority c = false ∧ c ≠ '@' := by
  intro c hc
  rw [toList_toString] at hc
  have hdigit : c.isDigit = true := Nat.isDigit_of_mem_toDigits (by omega) (by omega) hc
  have hother : ∀ d : Char, d.isDigit = false → c ≠ d := by
    rintro d hd rfl
    rw [hd] at hdigit
    cases hdigit
  simp [endsAuthority, hother '/' (by decide), hother '?' (by decide), hother '#' (by decide),
    hother '@' (by decide)]

section link

variable {url : UrlRecord}

/-- The authority of a web address without credentials: a host and a port. -/
theorem authority_plain {name : String} (hname : url.host = some name)
    (hcredentials : url.credentials = "") :
    ∀ c ∈ (url.authority name).toList, endsAuthority c = false ∧ c ≠ '@' := by
  intro c hc
  rw [UrlRecord.authority, hcredentials] at hc
  simp only [String.toList_append, List.mem_append] at hc
  rcases hc with (hc | hc) | hc
  · simp at hc
  · exact url.hostPlain name hname c hc
  · cases hport : url.port with
    | none =>
      rw [hport] at hc
      simp at hc
    | some port =>
      rw [hport, String.toList_append, List.mem_append] at hc
      rcases hc with hc | hc
      · obtain rfl : c = ':' := by simpa using hc
        decide
      · exact port_plain port c hc

/-- The path and the query of a URL. -/
def pathAndQuery (url : UrlRecord) : List Char :=
  url.path.toList ++ (UrlRecord.marked "?" url.query).toList

theorem pathAndQuery_plain (url : UrlRecord) : '#' ∉ pathAndQuery url := by
  intro hmem
  rcases List.mem_append.mp hmem with hpath | hquery
  · exact (url.pathPlain _ hpath).2 rfl
  · cases htext : url.query with
    | none => simp [htext, UrlRecord.marked] at hquery
    | some text =>
      rw [htext, UrlRecord.marked, String.toList_append, List.mem_append] at hquery
      rcases hquery with hmark | hquery
      · simp at hmark
      · exact url.queryPlain text htext hquery

/-- What is behind an authority ends it. -/
theorem pathAndQuery_ends {name : String} (hname : url.host = some name) :
    pathAndQuery url = [] ∨ ∃ c rest, pathAndQuery url = c :: rest ∧ endsAuthority c = true := by
  unfold pathAndQuery
  rcases url.pathRooted (by simp [hname]) with hempty | ⟨rest, hrest⟩
  · cases htext : url.query with
    | none => exact Or.inl (by simp [hempty, UrlRecord.marked])
    | some text => exact Or.inr ⟨'?', text.toList, by simp [hempty, UrlRecord.marked], by decide⟩
  · exact Or.inr ⟨'/', _, by rw [hrest, List.cons_append], by decide⟩

/-- What `toString` writes for a URL with a host. -/
theorem toList_href {name : String} (hname : url.host = some name) :
    url.href.toList = url.scheme.toList ++ ':' :: '/' :: '/' ::
      ((url.authority name).toList ++ (pathAndQuery url ++
        (UrlRecord.marked "#" url.fragment).toList)) := by
  rw [UrlRecord.href, hname]
  simp [pathAndQuery]

/-- A link has a fragment exactly when its URL has one. -/
theorem hash_mem_href (hweb : url.scheme ∈ webSchemes) (hcredentials : url.credentials = "") :
    '#' ∈ url.href.toList ↔ url.fragment ≠ none := by
  obtain ⟨name, hname, -⟩ := url.webHost hweb
  have hscheme : '#' ∉ url.scheme.toList := by
    simp only [webSchemes, List.mem_cons, List.not_mem_nil, or_false] at hweb
    rcases hweb with h | h <;> simp [h]
  have hauthority : '#' ∉ (url.authority name).toList := fun h =>
    absurd (authority_plain hname hcredentials _ h).1 (by decide)
  rw [toList_href hname]
  simp only [List.mem_append, List.mem_cons, hscheme, hauthority, pathAndQuery_plain url, false_or]
  cases url.fragment with
  | none => simp [UrlRecord.marked]
  | some text => simp [UrlRecord.marked]

/-- The authority and the scheme of a link are those of its URL. -/
theorem parts_href {name : String} (hweb : url.scheme ∈ webSchemes) (hname : url.host = some name)
    (hcredentials : url.credentials = "") :
    schemeOf url.href = url.scheme ∧ authorityOf url.href = (url.authority name).toList := by
  have hscheme : ∀ c ∈ url.scheme.toList, (c ≠ ':' : Bool) = true := by
    simp only [webSchemes, List.mem_cons, List.not_mem_nil, or_false] at hweb
    rcases hweb with h | h <;> simp [h]
  have htake : (url.href.toList.takeWhile fun c => c ≠ ':') = url.scheme.toList := by
    rw [toList_href hname, List.takeWhile_append_of_pos hscheme]
    simp
  have hdrop : (url.href.toList.dropWhile fun c => c ≠ ':').drop 1 = '/' :: '/' ::
      ((url.authority name).toList ++ (pathAndQuery url ++
        (UrlRecord.marked "#" url.fragment).toList)) := by
    rw [toList_href hname, List.dropWhile_append_of_pos hscheme]
    simp
  refine ⟨?_, ?_⟩
  · rw [schemeOf, htake, String.ofList_toList]
  · have hplain : ∀ c ∈ (url.authority name).toList, (!endsAuthority c) = true := fun c hc => by
      rw [(authority_plain hname hcredentials c hc).1]
      rfl
    have hstop : (pathAndQuery url ++ (UrlRecord.marked "#" url.fragment).toList).takeWhile
        (fun c => !endsAuthority c) = [] := by
      rcases pathAndQuery_ends hname with hnil | ⟨c, rest, hcons, hc⟩
      · rw [hnil, List.nil_append]
        cases url.fragment with
        | none => simp [UrlRecord.marked]
        | some text => simp [UrlRecord.marked, endsAuthority]
      · rw [hcons, List.cons_append, List.takeWhile_cons, hc]
        rfl
    rw [authorityOf, hdrop]
    show List.takeWhile (fun c => !endsAuthority c) ((url.authority name).toList ++ _) = _
    rw [List.takeWhile_append_of_pos hplain, hstop, List.append_nil]

/-- **A link without credentials is safe exactly when its URL has no fragment.** -/
theorem safeLink_href_iff (hweb : url.scheme ∈ webSchemes) (hcredentials : url.credentials = "") :
    SafeLink url.href ↔ url.fragment = none := by
  obtain ⟨name, hname, hne⟩ := url.webHost hweb
  obtain ⟨hscheme, hauthority⟩ := parts_href hweb hname hcredentials
  constructor
  · intro h
    by_contra hsome
    exact h.fragment ((hash_mem_href hweb hcredentials).mpr hsome)
  · intro hnone
    refine ⟨hscheme ▸ hweb, ?_, ?_, ?_⟩
    · rw [hauthority, UrlRecord.authority, hcredentials]
      intro hnil
      simp only [String.toList_append, List.append_eq_nil_iff] at hnil
      exact hne (String.toList_eq_nil_iff.mp hnil.1.2)
    · rw [hauthority]
      exact fun h => (authority_plain hname hcredentials _ h).2 rfl
    · rw [hash_mem_href hweb hcredentials]
      exact not_not.mpr hnone

end link

/-! ### The template -/

/-- The text a person gives for a name or a title, without the blanks around it. -/
def writtenText (value : Option String) : String := trim (value.getD "")

/-- Whom the email greets. -/
def greetedName (input : TemplateData) : String := trim (input.recipientName.getD "there")

/-- The heading of an email. -/
def headingOf (kind : EmailDeliveryKind) (input : TemplateData) : String :=
  match kind with
  | .activation => "Welcome to " ++ writtenText input.workspaceName
  | .reportReady => writtenText input.reportTitle
  | .portalUpdate => writtenText input.projectName

/-- The summary of an email. -/
def summaryOf (kind : EmailDeliveryKind) (input : TemplateData) : String :=
  match kind with
  | .activation =>
    "Your managed sign-in has been connected. Use the secure link below to open your " ++
      "workspace."
  | .reportReady => "An approved report is available in your client portal."
  | .portalUpdate => writtenText input.updateSummary

/-- A text of one line. -/
def OneLine (text : String) : Prop := ∀ c ∈ text.toList, c ≠ '\r' ∧ c ≠ '\n'

instance (text : String) : Decidable (OneLine text) :=
  inferInstanceAs (Decidable (∀ c ∈ text.toList, c ≠ '\r' ∧ c ≠ '\n'))

theorem OneLine.append {front back : String} (hfront : OneLine front) (hback : OneLine back) :
    OneLine (front ++ back) := by
  intro c hc
  rw [String.toList_append, List.mem_append] at hc
  exact hc.elim (hfront c) (hback c)

/-- INTERNAL: a text of one line that is there, without the blanks around it.
SOURCE: packages/email-delivery/src/index.js:55-59 -/
theorem singleLineString_ok {value label text : String} {maximum : Nat}
    (h : Email.singleLineString value label maximum = .ok text) :
    text = trim value ∧ text ≠ "" ∧ OneLine text := by
  obtain ⟨normalized, hnormalized, h⟩ := bind_eq_ok.mp h
  obtain ⟨hrequired, rfl⟩ := requiredString_eq_ok.mp hnormalized
  split at h
  · cases h
  · rename_i hline
    obtain rfl := Except.ok.inj h
    refine ⟨rfl, hrequired.nonempty, fun c hc => ?_⟩
    simp only [Bool.not_eq_true, List.any_eq_false, Bool.or_eq_true, decide_eq_true_eq,
      not_or] at hline
    exact hline c hc

/-- INTERNAL: the texts of a kind.
SOURCE: packages/email-delivery/src/index.js:134-154 -/
theorem templateTexts_ok {kind : EmailDeliveryKind} {input : TemplateData}
    {subject heading summary : String}
    (h : Email.templateTexts kind input = .ok (subject, heading, summary)) :
    OneLine subject ∧ heading = headingOf kind input ∧ summary = summaryOf kind input ∧
      heading ≠ "" ∧ summary ≠ "" := by
  cases kind with
  | activation =>
    obtain ⟨name, hname, h⟩ := bind_eq_ok.mp h
    obtain ⟨rfl, hne, hline⟩ := singleLineString_ok hname
    cases Except.ok.inj h
    exact ⟨hline.append (by simp [OneLine]), rfl, rfl, by simp, by simp⟩
  | reportReady =>
    obtain ⟨title, htitle, h⟩ := bind_eq_ok.mp h
    obtain ⟨rfl, hne, hline⟩ := singleLineString_ok htitle
    cases Except.ok.inj h
    exact ⟨OneLine.append (by simp [OneLine]) hline, rfl, rfl, hne, by simp⟩
  | portalUpdate =>
    obtain ⟨name, hname, h⟩ := bind_eq_ok.mp h
    obtain ⟨rfl, hne, hline⟩ := singleLineString_ok hname
    obtain ⟨summary, hsummary, h⟩ := bind_eq_ok.mp h
    obtain ⟨hrequired, rfl⟩ := requiredString_eq_ok.mp hsummary
    cases Except.ok.inj h
    exact ⟨OneLine.append (by simp [OneLine]) hline, rfl, rfl, hne, hrequired.nonempty⟩

/-- INTERNAL: the URL of a link.
SOURCE: packages/email-delivery/src/index.js:112-123 -/
theorem httpUrl_ok {parse : String → Option UrlRecord} {value : Option String} {label link : String}
    (h : Email.httpUrl (fun text => (parse text).map UrlRecord.parsed) value label = .ok link) :
    ∃ url, parse (writtenText value) = some url ∧ url.scheme ∈ webSchemes ∧
      url.credentials = "" ∧ url.hash = "" ∧ link = url.href := by
  unfold Email.httpUrl at h
  split at h
  · cases h
  · rename_i parsed hparsed
    split at h
    · cases h
    · rename_i hcheck
      obtain ⟨text, htext, hurl⟩ := Option.bind_eq_some_iff.mp hparsed
      obtain ⟨url, hparse, rfl⟩ := Option.map_eq_some_iff.mp hurl
      have hrequired : Email.required value label 2048 = .ok text := by
        cases hvalue : Email.required value label 2048 with
        | error e => simp [hvalue, Except.toOption] at htext
        | ok own => simpa [hvalue, Except.toOption] using htext
      obtain ⟨-, rfl⟩ := requiredString_eq_ok.mp hrequired
      simp only [Bool.or_eq_true, decide_eq_true_eq, not_or, Bool.not_eq_true',
        decide_eq_false_iff_not, not_not] at hcheck
      obtain ⟨⟨⟨hprotocol, huser⟩, hpassword⟩, hhash⟩ := hcheck
      change url.scheme ++ ":" ∈ ["http:", "https:"] at hprotocol
      change url.username = "" at huser
      change url.password = "" at hpassword
      change url.hash = "" at hhash
      refine ⟨url, hparse, ?_, by rw [UrlRecord.credentials, if_pos ⟨huser, hpassword⟩], hhash,
        (Except.ok.inj h).symm⟩
      have hhttp : "http:" = "http" ++ ":" := by decide +kernel
      have hhttps : "https:" = "https" ++ ":" := by decide +kernel
      rw [hhttp, hhttps] at hprotocol
      simpa only [webSchemes, List.mem_cons, List.not_mem_nil, or_false,
        String.append_left_inj] using hprotocol

/-- What holds of a rendered email: its subject is one line, its document is read into the elements of
the template with the texts as they were given, and its link is safe. -/
structure SafeEmail (kind : EmailDeliveryKind) (input : TemplateData) (message : EmailMessage) :
    Prop where
  subject : OneLine message.subject
  html : parseHtml message.html.toList =
    some (emailNodes (greetedName input) (headingOf kind input) (summaryOf kind input)
      message.actionUrl)
  link : SafeLink message.actionUrl

/-- A rendered email is safe but for the fragment of its link. -/
theorem renderEmailTemplate_ok {parse : String → Option UrlRecord} {kind : EmailDeliveryKind}
    {input : TemplateData} {message : EmailMessage}
    (h : Email.renderEmailTemplate (fun text => (parse text).map UrlRecord.parsed) kind input =
      .ok message) :
    OneLine message.subject ∧
      parseHtml message.html.toList = some (emailNodes (greetedName input) (headingOf kind input)
        (summaryOf kind input) message.actionUrl) ∧
      ∃ url, parse (writtenText input.actionUrl) = some url ∧ url.scheme ∈ webSchemes ∧
        url.credentials = "" ∧ url.hash = "" ∧ message.actionUrl = url.href := by
  obtain ⟨name, hname, h⟩ := bind_eq_ok.mp h
  obtain ⟨link, hlink, h⟩ := bind_eq_ok.mp h
  obtain ⟨⟨subject, heading, summary⟩, htexts, h⟩ := bind_eq_ok.mp h
  obtain ⟨-, rfl⟩ := requiredString_eq_ok.mp hname
  obtain ⟨hline, rfl, rfl, hheading, hsummary⟩ := templateTexts_ok htexts
  cases Except.ok.inj h
  exact ⟨hline, parseHtml_emailHtml (greetedName input) link hheading hsummary, httpUrl_ok hlink⟩

/-- **A rendered email is safe exactly when the fragment of its action URL is not the empty text.** -/
theorem email_safe_iff (parse : String → Option UrlRecord) (kind : EmailDeliveryKind)
    (input : TemplateData) (message : EmailMessage)
    (h : Email.renderEmailTemplate (fun text => (parse text).map UrlRecord.parsed) kind input =
      .ok message) :
    SafeEmail kind input message ↔
      ∀ url, parse (writtenText input.actionUrl) = some url → url.fragment ≠ some "" := by
  obtain ⟨hsubject, hhtml, url, hparse, hweb, hcredentials, hhash, hlink⟩ :=
    renderEmailTemplate_ok h
  have hsafe : SafeLink message.actionUrl ↔ url.fragment = none := by
    rw [hlink]
    exact safeLink_href_iff hweb hcredentials
  constructor
  · intro hemail own hown hempty
    obtain rfl := Option.some.inj (hparse.symm.trans hown)
    rw [hsafe.mp hemail.link] at hempty
    cases hempty
  · intro hempty
    refine ⟨hsubject, hhtml, hsafe.mpr ?_⟩
    cases hfragment : url.fragment with
    | none => rfl
    | some text =>
      have htext : text ≠ "" := fun heq => hempty url hparse (heq ▸ hfragment)
      rw [UrlRecord.hash, hfragment] at hhash
      simp [htext] at hhash

/-! ### Two links -/

theorem sampleHost : "https" ∈ webSchemes → ∃ name, some "x" = some name ∧ name ≠ "" :=
  fun _ => ⟨"x", rfl, by decide⟩

theorem sampleHost_plain :
    ∀ name, some "x" = some name → ∀ c ∈ name.toList, endsAuthority c = false ∧ c ≠ '@' := by
  intro name hname
  obtain rfl := Option.some.inj hname
  simp [endsAuthority]

theorem samplePath_plain : ∀ c ∈ "/".toList, c ≠ '?' ∧ c ≠ '#' := by simp

theorem samplePath_rooted :
    (some "x").isSome → "/" = "" ∨ ∃ rest, "/".toList = '/' :: rest :=
  fun _ => Or.inr ⟨[], by simp⟩

theorem sampleQuery_plain : ∀ text, (none : Option String) = some text → '#' ∉ text.toList := by
  intro text htext
  cases htext

/-- The URL `https://x/` with a fragment or without one. -/
def sampleUrl (fragment : Option String) : UrlRecord where
  scheme := "https"
  username := ""
  password := ""
  host := some "x"
  port := none
  path := "/"
  query := none
  fragment := fragment
  webHost := sampleHost
  hostPlain := sampleHost_plain
  pathPlain := samplePath_plain
  pathRooted := samplePath_rooted
  queryPlain := sampleQuery_plain

/-- `new URL` on the two links. -/
def sampleParse (text : String) : Option UrlRecord :=
  if text = "https://x/" then some (sampleUrl none)
  else if text = "https://x/#" then some (sampleUrl (some ""))
  else none

/-- The input of an activation email. -/
def activationData (actionUrl : String) : TemplateData where
  actionUrl := some actionUrl
  workspaceName := some "A"

/-- **A link with an empty fragment is accepted and keeps it.** -/
theorem empty_fragment_kept : ∃ message,
    Email.renderEmailTemplate (fun text => (sampleParse text).map UrlRecord.parsed) .activation
        (activationData "https://x/#") = .ok message ∧
      ¬ SafeEmail .activation (activationData "https://x/#") message := by
  refine ⟨_, rfl, fun h => ?_⟩
  have hfragment := (@safeLink_href_iff (sampleUrl (some "")) (by decide) rfl).mp h.link
  cases hfragment

theorem email_safe_activation : ∃ message,
    Email.renderEmailTemplate (fun text => (sampleParse text).map UrlRecord.parsed) .activation
        (activationData "https://x/") = .ok message ∧
      SafeEmail .activation (activationData "https://x/") message := by
  refine ⟨_, rfl, (email_safe_iff sampleParse .activation (activationData "https://x/") _ rfl).mpr
    ?_⟩
  intro url hurl
  obtain rfl : sampleUrl none = url := Option.some.inj hurl
  intro hempty
  cases hempty

end Xygo.Analysis
