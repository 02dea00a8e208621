import Mathlib

/-!
# Reading HTML

The tokenizer of HTML: a character read in the data of a document, in a tag, in the name or in the
value of an attribute. What is read in data or in a value is the raw text; `unescape` replaces its
character references. Tokens that are written out are read back (`tokenize_render`), and a tree of
elements is made of tokens whose tags match.

A comment and a declaration end at the first `>` here, and of the named references those of the
characters that act as markup are known.
-/

set_option autoImplicit false

namespace Xygo.Computation

/-! ### Character references -/

/-- The character of a reference, by what is between `&` and `;`. -/
def reference (name : List Char) : Option Char :=
  if name = ['a', 'm', 'p'] then some '&'
  else if name = ['l', 't'] then some '<'
  else if name = ['g', 't'] then some '>'
  else if name = ['q', 'u', 'o', 't'] then some '"'
  else if name = ['a', 'p', 'o', 's'] then some (Char.ofNat 39)
  else match name with
    | '#' :: d :: digits =>
      if (d :: digits).all Char.isDigit then
        some (Char.ofNat (Nat.ofDigitChars 10 (d :: digits) 0))
      else none
    | _ => none

/-- A character of a reference. -/
def isReferenceChar (c : Char) : Bool := c.isAlphanum || c = '#'

/-- The text of a raw text, from inside a reference whose first characters are read. -/
def unescapeFrom : Option (List Char) → List Char → List Char
  | none, [] => []
  | some name, [] => '&' :: name
  | none, c :: cs => if c = '&' then unescapeFrom (some []) cs else c :: unescapeFrom none cs
  | some name, c :: cs =>
    if c = ';' then
      match reference name with
      | some character => character :: unescapeFrom none cs
      | none => '&' :: name ++ ';' :: unescapeFrom none cs
    else if isReferenceChar c then unescapeFrom (some (name ++ [c])) cs
    else if c = '&' then '&' :: name ++ unescapeFrom (some []) cs
    else '&' :: name ++ c :: unescapeFrom none cs

/-- The text of a raw text. -/
def unescape (raw : List Char) : List Char := unescapeFrom none raw

/-- A reference in front of a raw text is its character in front of the text. -/
theorem unescapeFrom_reference {name : List Char} {character : Char} (read : List Char)
    (hname : ∀ c ∈ name, isReferenceChar c = true)
    (h : reference (read ++ name) = some character) (rest : List Char) :
    unescapeFrom (some read) (name ++ ';' :: rest) = character :: unescape rest := by
  induction name generalizing read with
  | nil =>
    rw [List.append_nil] at h
    simp [unescapeFrom, h, unescape]
  | cons c name ih =>
    have hc : isReferenceChar c = true := hname c List.mem_cons_self
    have hsemicolon : c ≠ ';' := by
      rintro rfl
      exact absurd hc (by decide)
    rw [List.cons_append, unescapeFrom, if_neg hsemicolon, if_pos hc]
    exact ih (read ++ [c]) (fun d hd => hname d (List.mem_cons_of_mem _ hd)) (by simpa using h)

/-- An encoding of characters that references undo. -/
def Undone (encode : Char → List Char) : Prop :=
  ∀ c, (encode c = [c] ∧ c ≠ '&') ∨
    ∃ name, encode c = '&' :: (name ++ [';']) ∧ (∀ d ∈ name, isReferenceChar d = true) ∧
      reference name = some c

/-- An encoded text in front of a raw text is the text in front of its text. -/
theorem unescape_encode_append {encode : Char → List Char} (h : Undone encode)
    (text rest : List Char) : unescape (text.flatMap encode ++ rest) = text ++ unescape rest := by
  induction text with
  | nil => rfl
  | cons c text ih =>
    rw [List.flatMap_cons, List.append_assoc]
    rcases h c with ⟨hplain, hne⟩ | ⟨name, hencoded, hname, hreference⟩
    · rw [hplain, List.singleton_append, unescape, unescapeFrom, if_neg hne]
      exact congrArg (c :: ·) ih
    · rw [hencoded, unescape, List.cons_append, unescapeFrom, if_pos rfl, List.append_assoc,
        List.singleton_append, unescapeFrom_reference [] hname (by simpa using hreference), ih]
      rfl

/-- What has no reference in it is a text. -/
theorem unescape_plain_append {front : List Char} (h : '&' ∉ front) (rest : List Char) :
    unescape (front ++ rest) = front ++ unescape rest := by
  induction front with
  | nil => rfl
  | cons c front ih =>
    rw [List.mem_cons, not_or] at h
    rw [List.cons_append, unescape, unescapeFrom, if_neg (Ne.symm h.1)]
    exact congrArg (c :: ·) (ih h.2)

theorem unescape_plain {text : List Char} (h : '&' ∉ text) : unescape text = text := by
  have happend := unescape_plain_append h []
  rw [List.append_nil] at happend
  exact happend.trans (List.append_nil text)

/-! ### Tokens -/

/-- A piece of a document; texts and values are raw. -/
inductive HtmlToken
  | text (characters : List Char)
  | startTag (name : List Char) (attributes : List (List Char × List Char))
  | endTag (name : List Char)
  deriving DecidableEq

/-- Where the tokenizer is. -/
inductive HtmlMode
  | data
  | tagOpen
  | endTagOpen
  | tagName
  | beforeAttributeName
  | attributeName
  | afterAttributeName
  | beforeAttributeValue
  | doubleQuoted
  | singleQuoted
  | unquoted
  | afterQuoted
  | bogusComment
  deriving DecidableEq

/-- The tokenizer: what it has read, and what it is reading. -/
structure HtmlReader where
  mode : HtmlMode
  tokens : List HtmlToken
  text : List Char
  closing : Bool
  name : List Char
  attributes : List (List Char × List Char)
  key : List Char
  value : List Char

/-- The text that was being read, as a token. -/
def textToken : List Char → List HtmlToken
  | [] => []
  | c :: cs => [.text (c :: cs)]

namespace HtmlReader

/-- In the data of a document. -/
def inData (tokens : List HtmlToken) (text : List Char) : HtmlReader :=
  ⟨.data, tokens, text, false, [], [], [], []⟩

/-- In the name of a tag. -/
def inTag (tokens : List HtmlToken) (closing : Bool) (name : List Char) : HtmlReader :=
  ⟨.tagName, tokens, [], closing, name, [], [], []⟩

/-- The attribute that was being read is added. -/
def addAttribute (r : HtmlReader) (mode : HtmlMode) (key : List Char) : HtmlReader :=
  { r with
    mode := mode
    attributes := r.attributes ++ [(r.key, r.value)]
    key := key
    value := [] }

/-- The tag ends. -/
def endTag (r : HtmlReader) : HtmlReader :=
  inData (r.tokens ++ [if r.closing then .endTag r.name else .startTag r.name r.attributes]) []

/-- White space in a tag. -/
def isSpace (c : Char) : Bool :=
  c.toNat = 0x09 || c.toNat = 0x0A || c.toNat = 0x0C || c.toNat = 0x0D || c.toNat = 0x20

/-- A character in the data of a document. -/
def readData (r : HtmlReader) (c : Char) : HtmlReader :=
  if c = '<' then { r with mode := .tagOpen } else { r with mode := .data, text := r.text ++ [c] }

/-- One more character. -/
def read (r : HtmlReader) (c : Char) : HtmlReader :=
  match r.mode with
  | .data => r.readData c
  | .tagOpen =>
    if c.isAlpha then inTag (r.tokens ++ textToken r.text) false [c.toLower]
    else if c = '/' then { r with mode := .endTagOpen }
    else if c = '!' || c = '?' then
      { inData (r.tokens ++ textToken r.text) [] with mode := .bogusComment }
    else { r with text := r.text ++ ['<'] }.readData c
  | .endTagOpen =>
    if c.isAlpha then inTag (r.tokens ++ textToken r.text) true [c.toLower]
    else if c = '>' then { r with mode := .data }
    else { inData (r.tokens ++ textToken r.text) [] with mode := .bogusComment }
  | .tagName =>
    if c = '>' then r.endTag
    else if isSpace c || c = '/' then { r with mode := .beforeAttributeName }
    else { r with name := r.name ++ [c.toLower] }
  | .beforeAttributeName =>
    if c = '>' then r.endTag
    else if isSpace c || c = '/' then r
    else { r with mode := .attributeName, key := [c.toLower] }
  | .attributeName =>
    if c = '>' then (r.addAttribute .data []).endTag
    else if isSpace c then { r with mode := .afterAttributeName }
    else if c = '/' then r.addAttribute .beforeAttributeName []
    else if c = '=' then { r with mode := .beforeAttributeValue }
    else { r with key := r.key ++ [c.toLower] }
  | .afterAttributeName =>
    if c = '>' then (r.addAttribute .data []).endTag
    else if isSpace c then r
    else if c = '/' then r.addAttribute .beforeAttributeName []
    else if c = '=' then { r with mode := .beforeAttributeValue }
    else r.addAttribute .attributeName [c.toLower]
  | .beforeAttributeValue =>
    if c = '>' then (r.addAttribute .data []).endTag
    else if isSpace c then r
    else if c = '"' then { r with mode := .doubleQuoted }
    else if c.toNat = 39 then { r with mode := .singleQuoted }
    else { r with mode := .unquoted, value := [c] }
  | .doubleQuoted =>
    if c = '"' then { r with mode := .afterQuoted } else { r with value := r.value ++ [c] }
  | .singleQuoted =>
    if c.toNat = 39 then { r with mode := .afterQuoted } else { r with value := r.value ++ [c] }
  | .unquoted =>
    if c = '>' then (r.addAttribute .data []).endTag
    else if isSpace c then r.addAttribute .beforeAttributeName []
    else { r with value := r.value ++ [c] }
  | .afterQuoted =>
    if c = '>' then (r.addAttribute .data []).endTag
    else if isSpace c || c = '/' then r.addAttribute .beforeAttributeName []
    else r.addAttribute .attributeName [c.toLower]
  | .bogusComment => if c = '>' then { r with mode := .data } else r

/-- Characters read one after the other. -/
def run (r : HtmlReader) (characters : List Char) : HtmlReader := characters.foldl read r

theorem run_append (r : HtmlReader) (front back : List Char) :
    r.run (front ++ back) = (r.run front).run back := List.foldl_append

theorem run_cons (r : HtmlReader) (c : Char) (cs : List Char) :
    r.run (c :: cs) = (r.read c).run cs := rfl

end HtmlReader

/-- The tokens of a document; what is unfinished at its end is dropped. -/
def tokenize (document : List Char) : List HtmlToken :=
  let r := (HtmlReader.inData [] []).run document
  r.tokens ++ textToken r.text

/-! ### Tokens written out -/

/-- A character of a name. -/
def isNameChar (c : Char) : Bool := c.isLower || c.isDigit

/-- The name of an element or of an attribute. -/
structure IsName (name : List Char) : Prop where
  starts : ∃ c cs, name = c :: cs ∧ c.isLower = true
  each : ∀ c ∈ name, isNameChar c = true

/-- An attribute, its value in double quotes. -/
def renderAttribute (pair : List Char × List Char) : List Char :=
  ' ' :: (pair.1 ++ '=' :: '"' :: (pair.2 ++ ['"']))

/-- A token written out. -/
def HtmlToken.render : HtmlToken → List Char
  | .text characters => characters
  | .startTag name attributes => '<' :: (name ++ attributes.flatMap renderAttribute ++ ['>'])
  | .endTag name => '<' :: '/' :: (name ++ ['>'])

/-- A token that is read as it is written. -/
def HtmlToken.Plain : HtmlToken → Prop
  | .text characters => characters ≠ [] ∧ '<' ∉ characters
  | .startTag name attributes =>
    IsName name ∧ ∀ pair ∈ attributes, IsName pair.1 ∧ '"' ∉ pair.2
  | .endTag name => IsName name

/-- Not two texts. -/
def HtmlToken.Apart : HtmlToken → HtmlToken → Prop
  | .text _, .text _ => False
  | _, _ => True

theorem isNameChar_iff (c : Char) :
    isNameChar c = true ↔ 97 ≤ c.toNat ∧ c.toNat ≤ 122 ∨ 48 ≤ c.toNat ∧ c.toNat ≤ 57 := by
  simp only [isNameChar, Char.isLower, Char.isDigit, Bool.or_eq_true, Bool.and_eq_true,
    decide_eq_true_eq, ge_iff_le, UInt32.le_iff_toNat_le]
  rfl

/-- What a character of a name is not, to the tokenizer. -/
theorem nameChar_plain {c : Char} (h : isNameChar c = true) :
    c ≠ '>' ∧ HtmlReader.isSpace c = false ∧ c ≠ '/' ∧ c ≠ '=' ∧ c.toLower = c := by
  have hrange := (isNameChar_iff c).mp h
  refine ⟨?_, ?_, ?_, ?_, ?_⟩
  · rintro rfl
    exact absurd h (by decide)
  · simp only [HtmlReader.isSpace, Bool.or_eq_false_iff, decide_eq_false_iff_not]
    omega
  · rintro rfl
    exact absurd h (by decide)
  · rintro rfl
    exact absurd h (by decide)
  · unfold Char.toLower
    rw [dif_neg]
    rintro ⟨hlow, hhigh⟩
    rw [ge_iff_le, UInt32.le_iff_toNat_le] at hlow
    rw [UInt32.le_iff_toNat_le] at hhigh
    have hlow' : 65 ≤ c.toNat := hlow
    have hhigh' : c.toNat ≤ 90 := hhigh
    omega

/-- The first character of a name starts a tag. -/
theorem isAlpha_of_isLower {c : Char} (h : c.isLower = true) :
    c.isAlpha = true ∧ isNameChar c = true := by
  simp [Char.isAlpha, isNameChar, h]

namespace HtmlReader

/-- A text is read in data. -/
theorem run_text (tokens : List HtmlToken) (text : List Char) {characters : List Char}
    (h : '<' ∉ characters) :
    (inData tokens text).run characters = inData tokens (text ++ characters) := by
  induction characters generalizing text with
  | nil => simp [run]
  | cons c cs ih =>
    rw [List.mem_cons, not_or] at h
    have hread : (inData tokens text).read c = inData tokens (text ++ [c]) := by
      show readData _ c = _
      rw [readData, if_neg (Ne.symm h.1)]
      rfl
    rw [run_cons, hread, ih _ h.2, List.append_assoc]
    rfl

/-- The name of a tag is read. -/
theorem run_name (tokens : List HtmlToken) (closing : Bool) (front : List Char) {name : List Char}
    (h : ∀ c ∈ name, isNameChar c = true) :
    (inTag tokens closing front).run name = inTag tokens closing (front ++ name) := by
  induction name generalizing front with
  | nil => simp [run]
  | cons c cs ih =>
    obtain ⟨hgt, hspace, hslash, -, hlower⟩ := nameChar_plain (h c List.mem_cons_self)
    have hread : (inTag tokens closing front).read c = inTag tokens closing (front ++ [c]) := by
      simp only [read, inTag]
      rw [if_neg hgt, hspace, if_neg (by simp [hslash]), hlower]
    rw [run_cons, hread, ih _ fun d hd => h d (List.mem_cons_of_mem _ hd), List.append_assoc]
    rfl

/-- The name of an attribute is read. -/
theorem run_key (r : HtmlReader) (hmode : r.mode = .attributeName) {key : List Char}
    (h : ∀ c ∈ key, isNameChar c = true) : r.run key = { r with key := r.key ++ key } := by
  induction key generalizing r with
  | nil => simp [run]
  | cons c cs ih =>
    obtain ⟨hgt, hspace, hslash, hequals, hlower⟩ := nameChar_plain (h c List.mem_cons_self)
    have hread : r.read c = { r with key := r.key ++ [c] } := by
      rw [read, hmode]
      dsimp only
      rw [if_neg hgt, hspace, if_neg (by simp), if_neg hslash, if_neg hequals, hlower]
    rw [run_cons, hread,
      ih { r with key := r.key ++ [c] } hmode fun d hd => h d (List.mem_cons_of_mem _ hd)]
    simp

/-- The value of an attribute is read. -/
theorem run_value (r : HtmlReader) (hmode : r.mode = .doubleQuoted) {value : List Char}
    (h : '"' ∉ value) : r.run value = { r with value := r.value ++ value } := by
  induction value generalizing r with
  | nil => simp [run]
  | cons c cs ih =>
    rw [List.mem_cons, not_or] at h
    have hread : r.read c = { r with value := r.value ++ [c] } := by
      rw [read, hmode]
      dsimp only
      rw [if_neg (Ne.symm h.1)]
    rw [run_cons, hread, ih { r with value := r.value ++ [c] } hmode h.2]
    simp

/-- In a tag, behind an attribute that is not added yet. -/
def behindAttribute (tokens : List HtmlToken) (name : List Char)
    (attributes : List (List Char × List Char)) (pair : List Char × List Char) : HtmlReader :=
  ⟨.afterQuoted, tokens, [], false, name, attributes, pair.1, pair.2⟩

/-- An attribute is read. -/
theorem run_attribute (tokens : List HtmlToken) (name : List Char)
    (attributes : List (List Char × List Char)) {pair : List Char × List Char}
    (hkey : IsName pair.1) (hvalue : '"' ∉ pair.2) :
    run ⟨.beforeAttributeName, tokens, [], false, name, attributes, [], []⟩
        (pair.1 ++ '=' :: '"' :: (pair.2 ++ ['"'])) =
      behindAttribute tokens name attributes pair := by
  obtain ⟨⟨c, cs, hcs, hlower⟩, heach⟩ := hkey
  obtain ⟨-, hc⟩ := isAlpha_of_isLower hlower
  obtain ⟨hgt, hspace, hslash, -, hsame⟩ := nameChar_plain hc
  rw [hcs] at heach ⊢
  rw [List.cons_append, run_cons]
  have hread : read ⟨.beforeAttributeName, tokens, [], false, name, attributes, [], []⟩ c =
      ⟨.attributeName, tokens, [], false, name, attributes, [c], []⟩ := by
    simp only [read]
    rw [if_neg hgt, hspace, if_neg (by simp [hslash]), hsame]
  rw [hread, run_append, run_key _ rfl fun d hd => heach d (List.mem_cons_of_mem _ hd), run_cons,
    run_cons, run_append]
  show ((run ⟨.doubleQuoted, tokens, [], false, name, attributes, c :: cs, []⟩ pair.2).run ['"']) = _
  rw [run_value _ rfl hvalue, behindAttribute, hcs]
  rfl

/-- The first attribute of a tag, and what is behind it. -/
theorem renderAttributes_cons (pair : List Char × List Char)
    (rest : List (List Char × List Char)) :
    (pair :: rest).flatMap renderAttribute ++ ['>'] =
      ' ' :: (pair.1 ++ '=' :: '"' :: (pair.2 ++ ['"']) ++
        (rest.flatMap renderAttribute ++ ['>'])) := by
  simp [renderAttribute]

/-- The attributes behind one are read, and the tag ends. -/
theorem run_attributes (tokens : List HtmlToken) (name : List Char)
    (attributes : List (List Char × List Char)) (pair : List Char × List Char)
    {rest : List (List Char × List Char)} (h : ∀ pair ∈ rest, IsName pair.1 ∧ '"' ∉ pair.2) :
    (behindAttribute tokens name attributes pair).run (rest.flatMap renderAttribute ++ ['>']) =
      inData (tokens ++ [.startTag name (attributes ++ pair :: rest)]) [] := by
  induction rest generalizing attributes pair with
  | nil => rfl
  | cons next rest ih =>
    obtain ⟨hkey, hvalue⟩ := h next List.mem_cons_self
    have hspace : (behindAttribute tokens name attributes pair).read ' ' =
        ⟨.beforeAttributeName, tokens, [], false, name, attributes ++ [pair], [], []⟩ := rfl
    rw [renderAttributes_cons, run_cons, hspace, run_append,
      run_attribute tokens name _ hkey hvalue, ih _ _ fun p hp => h p (List.mem_cons_of_mem _ hp), List.append_assoc]
    rfl

/-- A start tag is read. -/
theorem run_startTag (tokens : List HtmlToken) (text : List Char) {name : List Char}
    {attributes : List (List Char × List Char)} (hname : IsName name)
    (h : ∀ pair ∈ attributes, IsName pair.1 ∧ '"' ∉ pair.2) :
    (inData tokens text).run (HtmlToken.startTag name attributes).render =
      inData (tokens ++ textToken text ++ [.startTag name attributes]) [] := by
  obtain ⟨⟨c, cs, rfl, hlower⟩, heach⟩ := hname
  obtain ⟨halpha, hc⟩ := isAlpha_of_isLower hlower
  have hread : read { inData tokens text with mode := .tagOpen } c =
      inTag (tokens ++ textToken text) false [c] := by
    simp only [read]
    rw [if_pos halpha, (nameChar_plain hc).2.2.2.2]
    rfl
  have hopen : (inData tokens text).read '<' = { inData tokens text with mode := .tagOpen } := rfl
  rw [HtmlToken.render, List.cons_append, List.cons_append, run_cons, run_cons, hopen, hread,
    List.append_assoc, run_append, run_name _ _ _ fun d hd => heach d (List.mem_cons_of_mem _ hd)]
  cases attributes with
  | nil => rfl
  | cons pair rest =>
    obtain ⟨hkey, hvalue⟩ := h pair List.mem_cons_self
    have hspace : (inTag (tokens ++ textToken text) false ([c] ++ cs)).read ' ' =
        ⟨.beforeAttributeName, tokens ++ textToken text, [], false, [c] ++ cs, [], [], []⟩ := rfl
    rw [renderAttributes_cons, run_cons, hspace, run_append, run_attribute _ _ _ hkey hvalue,
      run_attributes _ _ _ _ fun p hp => h p (List.mem_cons_of_mem _ hp)]
    rfl

/-- An end tag is read. -/
theorem run_endTag (tokens : List HtmlToken) (text : List Char) {name : List Char}
    (hname : IsName name) :
    (inData tokens text).run (HtmlToken.endTag name).render =
      inData (tokens ++ textToken text ++ [.endTag name]) [] := by
  obtain ⟨⟨c, cs, rfl, hlower⟩, heach⟩ := hname
  obtain ⟨halpha, hc⟩ := isAlpha_of_isLower hlower
  have hread : read { inData tokens text with mode := .endTagOpen } c =
      inTag (tokens ++ textToken text) true [c] := by
    simp only [read]
    rw [if_pos halpha, (nameChar_plain hc).2.2.2.2]
    rfl
  have hopen : ((inData tokens text).read '<').read '/' =
      { inData tokens text with mode := .endTagOpen } := rfl
  rw [HtmlToken.render, List.cons_append, run_cons, run_cons, run_cons, hopen, hread, run_append,
    run_name _ _ _ fun d hd => heach d (List.mem_cons_of_mem _ hd)]
  rfl

end HtmlReader

/-- Tokens that are written out are read one after the other, if no text follows a text. -/
theorem run_render {rest : List HtmlToken} (hplain : ∀ token ∈ rest, token.Plain)
    (hapart : rest.IsChain HtmlToken.Apart) (tokens : List HtmlToken) (text : List Char)
    (htext : text = [] ∨ ∀ characters, rest.head? ≠ some (.text characters)) :
    ∃ tokens' text', (HtmlReader.inData tokens text).run (rest.flatMap HtmlToken.render) =
        HtmlReader.inData tokens' text' ∧
      tokens' ++ textToken text' = tokens ++ textToken text ++ rest := by
  induction rest generalizing tokens text with
  | nil => exact ⟨tokens, text, rfl, by simp⟩
  | cons token rest ih =>
    have hfirst := hplain token List.mem_cons_self
    have hrest := ih (fun t ht => hplain t (List.mem_cons_of_mem _ ht)) hapart.tail
    rw [List.flatMap_cons, HtmlReader.run_append]
    cases token with
    | text characters =>
      have hempty : text = [] := htext.resolve_right fun h => h characters rfl
      subst hempty
      obtain ⟨tokens', text', hrun, heq⟩ := hrest tokens characters (Or.inr (by
        intro next hnext
        cases rest with
        | nil => cases hnext
        | cons first rest =>
          cases hnext
          exact (List.isChain_cons_cons.mp hapart).1))
      refine ⟨tokens', text', ?_, ?_⟩
      · rw [HtmlToken.render, HtmlReader.run_text _ _ hfirst.2, List.nil_append, hrun]
      · rw [heq]
        cases characters with
        | nil => exact absurd rfl hfirst.1
        | cons c cs => simp [textToken]
    | startTag name attributes =>
      obtain ⟨tokens', text', hrun, heq⟩ := hrest (tokens ++ textToken text ++
        [.startTag name attributes]) [] (Or.inl rfl)
      refine ⟨tokens', text', ?_, ?_⟩
      · rw [HtmlReader.run_startTag _ _ hfirst.1 hfirst.2, hrun]
      · rw [heq]
        simp [textToken]
    | endTag name =>
      obtain ⟨tokens', text', hrun, heq⟩ := hrest (tokens ++ textToken text ++
        [.endTag name]) [] (Or.inl rfl)
      refine ⟨tokens', text', ?_, ?_⟩
      · rw [HtmlReader.run_endTag _ _ hfirst, hrun]
      · rw [heq]
        simp [textToken]

/-- **Tokens that are written out are read back.** -/
theorem tokenize_render {tokens : List HtmlToken} (hplain : ∀ token ∈ tokens, token.Plain)
    (hapart : tokens.IsChain HtmlToken.Apart) :
    tokenize (tokens.flatMap HtmlToken.render) = tokens := by
  obtain ⟨tokens', text', hrun, heq⟩ := run_render hplain hapart [] [] (Or.inl rfl)
  unfold tokenize
  rw [hrun]
  show tokens' ++ textToken text' = tokens
  rw [heq]
  rfl

/-! ### Trees -/

/-- A text, or an element with its attributes and what is in it. -/
inductive HtmlNode
  | text (characters : List Char)
  | element (name : List Char) (attributes : List (List Char × List Char))
      (children : List HtmlNode)

/-- An element that is open: its name, its attributes, and what is before it. -/
abbrev OpenElement := List Char × List (List Char × List Char) × List HtmlNode

/-- The nodes of tokens, inside some open elements behind some nodes: every end tag ends the element
that was opened last. -/
def nest : List HtmlToken → List OpenElement → List HtmlNode → Option (List HtmlNode)
  | [], [], nodes => some nodes
  | [], _ :: _, _ => none
  | .text raw :: rest, opened, nodes => nest rest opened (nodes ++ [.text (unescape raw)])
  | .startTag name attributes :: rest, opened, nodes =>
    nest rest ((name, attributes.map (fun pair => (pair.1, unescape pair.2)), nodes) :: opened) []
  | .endTag _ :: _, [], _ => none
  | .endTag name :: rest, (own, attributes, before) :: opened, nodes =>
    if name = own then nest rest opened (before ++ [.element own attributes nodes]) else none

/-- The nodes of a document. -/
def parseHtml (document : List Char) : Option (List HtmlNode) := nest (tokenize document) [] []

end Xygo.Computation
