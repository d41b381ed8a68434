import Lebro.RetrievalScope

set_option autoImplicit false

namespace Lebro.TextAttachments

open RuntimeTypes RetrievalScope List

abbrev Text := List Char

def xmlCharAllowed (r : Char) : Bool :=
 r = '\t' || r = '\n' || r = '\r' || (0x20 ≤ r.toNat && r.toNat ≤ 0xD7FF) ||
  (0xE000 ≤ r.toNat && r.toNat ≤ 0xFFFD) || (0x10000 ≤ r.toNat && r.toNat ≤ 0x10FFFF)

def validateXMLRepresentable (value : Text) (what : String) : Option Err :=
 (value.find? fun r => !xmlCharAllowed r).map fun r => .new ("lebro: " ++ what ++
  " contains character " ++ quote r.toString ++ " that cannot appear in an XML document")

def escapeText : Char → Text
 | '&' => "&amp;".toList
 | '<' => "&lt;".toList
 | '>' => "&gt;".toList
 | '\r' => "&#xD;".toList
 | r => [r]

def escapeAttribute : Char → Text
 | '"' => "&quot;".toList
 | '\n' => "&#xA;".toList
 | '\t' => "&#x9;".toList
 | r => escapeText r

def xmlEscapeText (value : Text) : Text := value.flatMap escapeText

def xmlEscapeAttribute (value : Text) : Text := value.flatMap escapeAttribute

def newTextAttachmentPart (filename mimeType text : Text) : Except Err Text :=
 if filename.all isSpace then .error (.new "lebro: attachment filename is required")
 else if mimeType.all isSpace then .error (.new "lebro: attachment media type is required")
 else
  match (validateXMLRepresentable filename "attachment filename").or
   ((validateXMLRepresentable mimeType "attachment media type").or
    (validateXMLRepresentable text "attachment text")) with
  | some e => .error e
  | none => .ok ("<attachment filename=\"".toList ++ (xmlEscapeAttribute filename ++
   ("\" media_type=\"".toList ++ (xmlEscapeAttribute mimeType ++
    ("\">\n".toList ++ (xmlEscapeText text ++ "</attachment>".toList))))))

/-- Line ends are normalized before anything is read. -/
def normalizeLines : Text → Text
 | [] => []
 | '\r' :: '\n' :: rest => '\n' :: normalizeLines rest
 | '\r' :: rest => '\n' :: normalizeLines rest
 | c :: rest => c :: normalizeLines rest

def digitValue (c : Char) : ℕ :=
 if c.isDigit then c.toNat - 48 else if c.isUpper then c.toNat - 55 else c.toNat - 87

/-- A reference by number has digits, and names a character that may stand in a document. -/
def numbered (base : ℕ) (digits : Text) : Option Char :=
 let n := digits.foldl (fun n c => base * n + digitValue c) 0
 if !digits.isEmpty && digits.all (fun c => c.isAlphanum && digitValue c < base) &&
   decide n.isValidChar && xmlCharAllowed (Char.ofNat n) then some (Char.ofNat n)
 else none

def reference : Text → Option Char
 | ['a', 'm', 'p'] => some '&'
 | ['l', 't'] => some '<'
 | ['g', 't'] => some '>'
 | ['q', 'u', 'o', 't'] => some '"'
 | ['a', 'p', 'o', 's'] => some (Char.ofNat 39)
 | '#' :: 'x' :: digits => numbered 16 digits
 | '#' :: digits => numbered 10 digits
 | _ => none

/-- Characters up to the quote of an attribute value or the end of text. White space in a value is
normalized, but not if it is written as a reference. -/
def characters (stop : Char) : Option Text → Text → Option (Text × Text)
 | _, [] => none
 | none, c :: rest =>
  if c = stop then some ([], rest)
  else if c = '<' || c = '>' || !xmlCharAllowed c then none
  else if c = '&' then characters stop (some []) rest
  else
   let c := if stop = '"' && (c = '\n' || c = '\t') then ' ' else c
   (characters stop none rest).map fun r => (c :: r.1, r.2)
 | some name, c :: rest =>
  if c = ';' then do
   let referred ← reference name
   (characters stop none rest).map fun r => (referred :: r.1, r.2)
  else characters stop (some (name ++ [c])) rest

def nameChar (c : Char) : Bool := c.isAlpha || c = '_'

def attributes : ℕ → Text → Option (List (Text × Text) × Text)
 | n + 1, ' ' :: rest =>
  match rest.dropWhile nameChar with
  | '=' :: '"' :: value => do
   let (value, after) ← characters '"' none value
   let (more, after) ← attributes n after
   some ((rest.takeWhile nameChar, value) :: more, after)
  | _ => none
 | _, '>' :: rest => some ([], rest)
 | _, _ => none

structure Element where
 name : Text
 attributes : List (Text × Text)
 text : Text

def readElement : Text → Option Element
 | '<' :: rest => do
  let name := rest.takeWhile nameChar
  let (attributes, body) ← attributes rest.length (rest.dropWhile nameChar)
  let (text, closing) ← characters '<' none body
  if closing = '/' :: name ++ ['>'] then some ⟨name, attributes, text⟩ else none
 | _ => none

def readDocument (text : Text) : Option Element := readElement (normalizeLines text)

lemma normalizeLines_eq {text} (h : '\r' ∉ text) : normalizeLines text=text := by
 induction text with
 | nil => rfl
 | cons c text ih =>
  rw [mem_cons,not_or] at h
  rw [normalizeLines]
  · rw [ih h.2]
  · rintro _ rfl
    exact absurd rfl h.1
  · rintro rfl
    exact absurd rfl h.1

lemma characters_escapeText {c} (h:xmlCharAllowed c=true) (rest:Text) :
  characters '<' none (escapeText c++rest) =
   (characters '<' none rest).map fun r=>(c :: r.1,r.2) := by
 unfold escapeText
 split
 · rfl
 · rfl
 · rfl
 · rfl
 · rename_i hand hlt hgt hcr
   rw [singleton_append,characters,if_neg hlt,if_neg (by simp [h]; grind),if_neg hand]
   rfl

lemma characters_escapeAttribute {c:Char} (h:xmlCharAllowed c=true) (rest:Text) :
  characters '"' none (escapeAttribute c ++ rest) =
   (characters '"' none rest).map fun r=>(c :: r.1,r.2) := by
 unfold escapeAttribute
 split
 · rfl
 · rfl
 · rfl
 · rename_i hquote hline htab
   unfold escapeText
   split
   · rfl
   · rfl
   · rfl
   · rfl
   · rename_i hand hlt hgt hcr
     have hblank:¬ (c = '\n' ∨ c = '\t') := not_or.mpr ⟨hline,htab⟩
     rw [singleton_append,characters,if_neg hquote,if_neg (by simp [h]; grind),if_neg hand]
     simp [hblank]

lemma characters_escaped {stop escape}
  (hescape:∀ c,xmlCharAllowed c=true → ∀ rest,characters stop none (escape c++rest) =
   (characters stop none rest).map fun r=>(c :: r.1,r.2)) {value}
  (h:∀ c ∈ value,xmlCharAllowed c=true) (rest:Text) :
  characters stop none (value.flatMap escape++stop :: rest)=some (value,rest) := by
 induction value with
 | nil => simp [characters]
 | cons c value ih =>
  obtain ⟨hc,hvalue⟩:=forall_mem_cons.mp h
  rw [flatMap_cons,append_assoc,hescape c hc,ih hvalue]
  rfl

lemma attributes_escaped {name value:Text} (hname:∀ c ∈ name,nameChar c=true)
  (hvalue:∀ c ∈ value,xmlCharAllowed c=true) (n:ℕ) (rest:Text) :
  attributes (n+1) (' ' :: (name ++ '=' :: '"' :: (xmlEscapeAttribute value ++ '"' :: rest))) =
   (attributes n rest).map fun r=>((name,value) :: r.1,r.2) := by
 rw [attributes,dropWhile_append_of_pos hname,takeWhile_append_of_pos hname]
 simp only [dropWhile_cons_of_neg (show ¬ nameChar '='=true by decide),
  takeWhile_cons_of_neg (show ¬ nameChar '='=true by decide),append_nil,
  xmlEscapeAttribute,characters_escaped (fun c hc=>characters_escapeAttribute hc) hvalue]
 change (attributes n rest).bind (fun r=>some ((name,value) :: r.1,r.2))=_
 cases attributes n rest with
 | none => rfl
 | some r => rfl

lemma validateXMLRepresentable_none {value what} :
  validateXMLRepresentable value what=none ↔ ∀ c ∈ value,xmlCharAllowed c=true := by
 simp [validateXMLRepresentable]

lemma escapeText_plain (c:Char) : '\r' ∉ escapeText c := by
 unfold escapeText
 split
 · decide
 · decide
 · decide
 · decide
 · rename_i hcr
   rw [mem_singleton]
   exact fun h=>hcr h.symm

lemma escapeAttribute_plain (c:Char) : '\r' ∉ escapeAttribute c := by
 unfold escapeAttribute
 split
 · decide
 · decide
 · decide
 · exact escapeText_plain c

/-- Whatever is wrapped is read back as the one element's attributes and text. -/
theorem attachment_reads_back (filename mimeType text wrapped : Text)
  (h : newTextAttachmentPart filename mimeType text = .ok wrapped) :
  readDocument wrapped = some ⟨"attachment".toList,
   [("filename".toList, filename), ("media_type".toList, mimeType)], '\n' :: text⟩ := by
 unfold newTextAttachmentPart at h
 split at h
 · cases h
 split at h
 · cases h
 split at h
 · cases h
 rename_i hvalid
 simp only [Option.or_eq_none_iff,validateXMLRepresentable_none] at hvalid
 obtain ⟨hfilename,hmimeType,htext⟩:=hvalid
 cases h
 rw [readDocument,normalizeLines_eq]
 · let body := '\n' :: (xmlEscapeText text ++ "</attachment>".toList)
   have hbody:characters '<' none body = some ('\n' :: text,"/attachment>".toList) :=
    @characters_escaped '<' escapeText (fun c hc=>characters_escapeText hc) ('\n' :: text)
     (forall_mem_cons.mpr ⟨by decide,htext⟩) _
   let tag := ' ' :: ("filename".toList ++ '=' :: '"' :: (xmlEscapeAttribute filename ++ '"' ::
    (' ' :: ("media_type".toList ++ '=' :: '"' :: (xmlEscapeAttribute mimeType ++ '"' ::
     ('>' :: body))))))
   have htag:attributes ("attachment".toList ++ tag).length tag =
     some ([("filename".toList,filename),("media_type".toList,mimeType)],body) := by
    have hlength:("attachment".toList ++ tag).length = 7 + tag.length + 1 + 1 + 1 := by
     rw [length_append]
     exact Nat.add_right_comm 7 3 tag.length
    rw [hlength,attributes_escaped (all_eq_true.mp rfl) hfilename,
     attributes_escaped (all_eq_true.mp rfl) hmimeType]
    rfl
   have hname:∀ c ∈ "attachment".toList, nameChar c = true := all_eq_true.mp rfl
   change readElement ('<' :: ("attachment".toList ++ tag)) = _
   rw [readElement,takeWhile_append_of_pos hname,dropWhile_append_of_pos hname,
    takeWhile_cons_of_neg (by decide),dropWhile_cons_of_neg (by decide),htag]
   change ((characters '<' none body).bind _) = _
   rw [hbody]
   rfl
 · simp only [mem_append,not_or]
   have hattribute:∀ value, '\r' ∉ xmlEscapeAttribute value := by
    intro value hmem
    obtain ⟨c,-,hc⟩:=mem_flatMap.mp hmem
    exact escapeAttribute_plain c hc
   refine ⟨by decide,hattribute _,by decide,hattribute _,by decide,?_,by decide⟩
   intro hmem
   obtain ⟨c,-,hc⟩:=mem_flatMap.mp hmem
   exact escapeText_plain c hc

/-- A text that tries to end the element. -/
theorem closing_text_kept : ∃ wrapped,
  newTextAttachmentPart ['n'] ['t'] "</attachment><x/>".toList = .ok wrapped ∧
  (readDocument wrapped).map Element.text = some ('\n' :: "</attachment><x/>".toList) := by
 refine ⟨_,rfl,?_⟩
 rw [attachment_reads_back ['n'] ['t'] "</attachment><x/>".toList _ rfl]
 rfl

end Lebro.TextAttachments
