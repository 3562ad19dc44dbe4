import ProvisioningSdk.Lib.CborItems

/-!
# CBOR Documents as They Are Sent

Data items of every kind, in every form a sender may choose for them, and what
the search of `Lib.Cbor` makes of their bytes.

A document is what was written and how: an argument may take more bytes than it
needs, a string may come in chunks, and an array or a map may be of indefinite
length. The entries of a map are its keys and values by turns, the keys of any
kind. A key is the text behind its tags, but a tagged value is no text. The items
of `Lib.CborItems` are the few documents a program writes; these are the ones it
may be sent.

`skip_encode` is the result everything rests on: the bytes of a valid document
are skipped, and no more. The limits of the parser are limits on documents.
Inside a container of indefinite length a parser looks for the break before each
item, so it matters that no document begins with one (`startsBreak_encode`).

## Main definitions

* `Width`, `writeHead`: The forms of a head.
* `Document`, `Documents`: The data, with its forms.
* `Document.encode`: The bytes.
* `Document.Valid`: What a parser with these limits accepts.
* `Document.untagged`: What is behind the tags.
* `Document.text?`, `Documents.lookup`: The text, and the value of a key.
* `Document.HasText`: A map has the text string under the key.

## Theorems

* `head_writeHead`: A head is read back in every form.
* `skip_encode`: The bytes of a document are skipped.
* `text_encode`: A text string is read, in chunks or not.
* `untag_encode`: The tags are skipped.
* `mapFind_encode`: The search finds the first value of the key.
-/

namespace Cbor

open Bytes

/-! ### Heads -/

/-- Where the argument of a head is: in the first byte, or in `2 ^ k` bytes after
    it. -/
inductive Width
  | first
  | after (k : Fin 4)
  deriving DecidableEq, Repr

/-- The argument has room. -/
def Width.Fits : Width → Nat → Prop
  | .first, n => n < 24
  | .after k, n => n < 256 ^ 2 ^ k.val

instance (w : Width) (n : Nat) : Decidable (w.Fits n) := by
  cases w with
  | first => exact inferInstanceAs (Decidable (n < 24))
  | after k => exact inferInstanceAs (Decidable (n < 256 ^ 2 ^ k.val))

/-- The head of an item of this major type. -/
def writeHead (major : Nat) : Width → Nat → List UInt8
  | .first, n => [UInt8.ofNat (32 * major + n)]
  | .after k, n => UInt8.ofNat (32 * major + (24 + k.val)) :: be (2 ^ k.val) n

/-- The head of an item of indefinite length. -/
def openHead (major : Nat) : UInt8 := UInt8.ofNat (32 * major + 31)

theorem toNat_head (major info : Nat) (hmajor : major < 8) (hinfo : info < 32) :
    (UInt8.ofNat (32 * major + info)).toNat = 32 * major + info := by
  rw [UInt8.toNat_ofNat']
  exact Nat.mod_eq_of_lt (by omega)

/-- A head is read back, in whatever form it is written. -/
theorem head_writeHead {major n : Nat} {w : Width} (hmajor : major < 8) (hn : w.Fits n)
    (rest : List UInt8) : head (writeHead major w n ++ rest) = some (⟨major, some n⟩, rest) := by
  cases w with
  | first =>
      have hn24 : n < 24 := hn
      have hinfo : (32 * major + n) % 32 = n := by omega
      have hdiv : (32 * major + n) / 32 = major := by omega
      unfold writeHead head
      simp only [List.singleton_append, toNat_head major n hmajor (by omega), hinfo, hdiv]
      rw [if_pos hn24]
  | after k => exact head_long major k.val n rest hmajor k.isLt hn

theorem head_openHead (major : Nat) (hmajor : major < 8) (rest : List UInt8) :
    head (openHead major :: rest) = some (⟨major, none⟩, rest) := by
  have hinfo : (32 * major + 31) % 32 = 31 := by omega
  have hdiv : (32 * major + 31) / 32 = major := by omega
  unfold openHead head
  simp only [toNat_head major 31 hmajor (by decide), hinfo, hdiv]
  rw [if_neg (by decide), if_neg (by decide), if_pos trivial]

/-- A byte is no break if its value is not that of one. -/
theorem startsBreak_cons (major info : Nat) (rest : List UInt8) (hmajor : major < 8)
    (hinfo : info < 31) : startsBreak (UInt8.ofNat (32 * major + info) :: rest) = false := by
  refine beq_eq_false_iff_ne.mpr (fun h => ?_)
  rw [List.head?_cons, Option.some.injEq] at h
  -- a break has all its bits set, and so an information of 31
  have hval := congrArg UInt8.toNat h
  rw [toNat_head major info hmajor (by omega)] at hval
  have hbreak : breakByte.toNat = 255 := rfl
  omega

theorem startsBreak_writeHead {major n : Nat} {w : Width} (hmajor : major < 8) (hn : w.Fits n)
    (rest : List UInt8) : startsBreak (writeHead major w n ++ rest) = false := by
  cases w with
  | first =>
      have hn24 : n < 24 := hn
      exact startsBreak_cons major n rest hmajor (by omega)
  | after k =>
      have hk := k.isLt
      exact startsBreak_cons major (24 + k.val) _ hmajor (by omega)

theorem startsBreak_openHead (major : Nat) (hmajor : major < 7) (rest : List UInt8) :
    startsBreak (openHead major :: rest) = false := by
  refine beq_eq_false_iff_ne.mpr (fun h => ?_)
  rw [List.head?_cons, Option.some.injEq] at h
  have hval := congrArg UInt8.toNat h
  rw [openHead, toNat_head major 31 (by omega) (by decide)] at hval
  have hbreak : breakByte.toNat = 255 := rfl
  omega

theorem startsBreak_break (rest : List UInt8) : startsBreak (breakByte :: rest) = true :=
  beq_iff_eq.mpr rfl

/-! ### Documents -/

mutual

/-- A data item, and the form it has. -/
inductive Document
  /-- An integer, a simple value or a floating-point number. -/
  | number (major : Nat) (w : Width) (n : Nat)
  /-- A byte or text string. -/
  | string (major : Nat) (w : Width) (s : List UInt8)
  /-- The same in chunks. -/
  | chunked (major : Nat) (chunks : List (Width × List UInt8))
  | tagged (w : Width) (n : Nat) (content : Document)
  /-- An array or a map. -/
  | container (major : Nat) (w : Width) (items : Documents)
  /-- The same, of indefinite length. -/
  | indefinite (major : Nat) (items : Documents)

/-- Items one after the other. -/
inductive Documents
  | nil
  | cons (item : Document) (rest : Documents)

end

/-- The number of items. -/
def Documents.count : Documents → Nat
  | .nil => 0
  | .cons _ rest => rest.count + 1

/-- The argument of a container: its entries, if it is a map. -/
def entryCount (major count : Nat) : Nat := if major = maps then count / 2 else count

/-- The chunks of a string. -/
def encodeChunks (major : Nat) : List (Width × List UInt8) → List UInt8
  | [] => [breakByte]
  | (w, s) :: rest => writeHead major w s.length ++ (s ++ encodeChunks major rest)

mutual

def Document.encode : Document → List UInt8
  | .number major w n => writeHead major w n
  | .string major w s => writeHead major w s.length ++ s
  | .chunked major cs => openHead major :: encodeChunks major cs
  | .tagged w n content => writeHead tags w n ++ content.encode
  | .container major w items => writeHead major w (entryCount major items.count) ++ items.encode
  | .indefinite major items => openHead major :: (items.encode ++ [breakByte])

def Documents.encode : Documents → List UInt8
  | .nil => []
  | .cons item rest => item.encode ++ rest.encode

end

/-- The major type is one of strings. -/
def IsString (major : Nat) : Prop := major = byteStrings ∨ major = textStrings

instance (major : Nat) : Decidable (IsString major) := inferInstanceAs (Decidable (_ ∨ _))

/-- The major type is one of containers, and a map has a value for each key. -/
def IsContainer (major count : Nat) : Prop :=
  major = arrays ∨ (major = maps ∧ count % 2 = 0)

instance (major count : Nat) : Decidable (IsContainer major count) :=
  inferInstanceAs (Decidable (_ ∨ _))

/-- An integer, a simple value or a floating-point number. A simple value takes two
    bytes only if it has no form of one. -/
def IsNumber (major : Nat) (w : Width) (n : Nat) : Prop :=
  major < 2 ∨ (major = simples ∧ (w = .after 0 → firstLongSimple ≤ n))

instance (major : Nat) (w : Width) (n : Nat) : Decidable (IsNumber major w n) :=
  inferInstanceAs (Decidable (_ ∨ _))

mutual

/-- What a parser with these limits accepts: the arguments fit their forms, no
    container has too many elements, and nothing is nested deeper than this. -/
def Document.Valid (limits : Limits) : Document → Nat → Prop
  | .number major w n, depth => 0 < depth ∧ IsNumber major w n ∧ w.Fits n
  | .string major w s, depth => 0 < depth ∧ IsString major ∧ w.Fits s.length
  | .chunked major cs, depth => 0 < depth ∧ IsString major ∧ ∀ c ∈ cs, c.1.Fits c.2.length
  | .tagged w n content, depth => 0 < depth ∧ w.Fits n ∧ content.Valid limits (depth - 1)
  | .container major w items, depth => 0 < depth ∧ IsContainer major items.count ∧
      w.Fits (entryCount major items.count) ∧
      entryCount major items.count ≤ limits.elements ∧ items.Valid limits (depth - 1)
  | .indefinite major items, depth => 0 < depth ∧ IsContainer major items.count ∧
      items.Valid limits (depth - 1)

def Documents.Valid (limits : Limits) : Documents → Nat → Prop
  | .nil, _ => True
  | .cons item rest, depth => item.Valid limits depth ∧ rest.Valid limits depth

end

mutual

def Document.decideValid (limits : Limits) :
    (item : Document) → (depth : Nat) → Decidable (item.Valid limits depth)
  | .number _ _ _, _ => inferInstanceAs (Decidable (_ ∧ _ ∧ _))
  | .string _ _ _, _ => inferInstanceAs (Decidable (_ ∧ _ ∧ _))
  | .chunked _ _, _ => inferInstanceAs (Decidable (_ ∧ _ ∧ _))
  | .tagged _ _ content, depth =>
      have := content.decideValid limits (depth - 1)
      inferInstanceAs (Decidable (_ ∧ _ ∧ _))
  | .container _ _ items, depth =>
      have := items.decideValid limits (depth - 1)
      inferInstanceAs (Decidable (_ ∧ _ ∧ _ ∧ _ ∧ _))
  | .indefinite _ items, depth =>
      have := items.decideValid limits (depth - 1)
      inferInstanceAs (Decidable (_ ∧ _ ∧ _))

def Documents.decideValid (limits : Limits) :
    (items : Documents) → (depth : Nat) → Decidable (items.Valid limits depth)
  | .nil, _ => inferInstanceAs (Decidable True)
  | .cons item rest, depth =>
      have := item.decideValid limits depth
      have := rest.decideValid limits depth
      inferInstanceAs (Decidable (_ ∧ _))

end

instance (limits : Limits) (item : Document) (depth : Nat) : Decidable (item.Valid limits depth) :=
  item.decideValid limits depth

/-- The text, if the document is a text string. -/
def Document.text? : Document → Option (List UInt8)
  | .string major _ s => if major = textStrings then some s else none
  | .chunked major cs => if major = textStrings then some (cs.flatMap Prod.snd) else none
  | _ => none

/-- The major type. -/
def Document.major : Document → Nat
  | .number major _ _ => major
  | .string major _ _ => major
  | .chunked major _ => major
  | .tagged _ _ _ => tags
  | .container major _ _ => major
  | .indefinite major _ => major

/-- What is behind the tags. -/
def Document.untagged : Document → Document
  | .tagged _ _ content => content.untagged
  | item => item

/-- The first value whose key is this text, tagged or not, and what comes after
    it, in items that are keys and values by turns. -/
def Documents.lookup (key : List UInt8) : Documents → Option (Document × Documents)
  | .nil => none
  | .cons _ .nil => none
  | .cons k (.cons value rest) =>
      if k.untagged.text? = some key then some (value, rest) else rest.lookup key

/-- The text string under a key. -/
def Documents.textOf (key : List UInt8) (items : Documents) : Option (List UInt8) :=
  (items.lookup key).bind (fun found => found.1.text?)

/-- The entries of a map. -/
def Document.entries? : Document → Option Documents
  | .container major _ items => if major = maps then some items else none
  | .indefinite major items => if major = maps then some items else none
  | _ => none

/-- The document is a map with this text string under the key. -/
def Document.HasText (item : Document) (key s : List UInt8) : Prop :=
  item.entries?.bind (fun entries => entries.textOf key) = some s

/-! ### Strings -/

/-- The chunks are joined, and the break after them is read. -/
theorem chunks_encode {major : Nat} (hmajor : major < 8) (cs : List (Width × List UInt8))
    (hcs : ∀ c ∈ cs, c.1.Fits c.2.length) (k : Nat) (hk : cs.length < k) (rest : List UInt8) :
    chunks major k (encodeChunks major cs ++ rest) = some (cs.flatMap Prod.snd, rest) := by
  induction cs generalizing k with
  | nil =>
      obtain ⟨k, rfl⟩ : ∃ n, k = n + 1 := ⟨k - 1, by omega⟩
      unfold encodeChunks chunks
      rw [List.singleton_append, if_pos (startsBreak_break rest)]
      rfl
  | cons c cs ih =>
      rcases c with ⟨w, s⟩
      rw [List.length_cons] at hk
      obtain ⟨k, rfl⟩ : ∃ n, k = n + 1 := ⟨k - 1, by omega⟩
      have hfits : w.Fits s.length := hcs (w, s) List.mem_cons_self
      have hlater := ih (fun c hc => hcs c (List.mem_cons_of_mem _ hc)) k (by omega)
      have hlen : s.length ≤ (s ++ (encodeChunks major cs ++ rest)).length := by
        rw [List.length_append]
        exact Nat.le_add_right _ _
      unfold encodeChunks chunks
      rw [List.append_assoc, List.append_assoc, startsBreak_writeHead hmajor hfits,
        head_writeHead hmajor hfits]
      simp only [Bool.false_eq_true, if_false]
      rw [if_pos ⟨trivial, hlen⟩, List.take_left' rfl, List.drop_left' rfl, hlater]
      rfl

theorem length_le_encodeChunks (major : Nat) (cs : List (Width × List UInt8)) :
    cs.length < (encodeChunks major cs).length := by
  induction cs with
  | nil => exact Nat.zero_lt_one
  | cons c cs ih =>
      rcases c with ⟨w, s⟩
      have hhead : 0 < (writeHead major w s.length).length := by
        cases w <;> exact Nat.succ_pos _
      unfold encodeChunks
      rw [List.length_append, List.length_append, List.length_cons]
      omega

theorem string_writeHead {major : Nat} {w : Width} (hmajor : major < 8) (s : List UInt8)
    (hs : w.Fits s.length) (rest : List UInt8) :
    string major (writeHead major w s.length ++ s ++ rest) = some (s, rest) := by
  have hlen : s.length ≤ (s ++ rest).length := by
    rw [List.length_append]
    exact Nat.le_add_right _ _
  unfold string
  rw [List.append_assoc, head_writeHead hmajor hs]
  simp only
  rw [if_pos ⟨trivial, hlen⟩, List.take_left' rfl, List.drop_left' rfl]

theorem string_openHead {major : Nat} (hmajor : major < 8) (cs : List (Width × List UInt8))
    (hcs : ∀ c ∈ cs, c.1.Fits c.2.length) (rest : List UInt8) :
    string major (openHead major :: encodeChunks major cs ++ rest) =
      some (cs.flatMap Prod.snd, rest) := by
  have hlen := length_le_encodeChunks major cs
  unfold string
  rw [List.cons_append, head_openHead major hmajor]
  simp only
  rw [if_pos trivial]
  -- there are more bytes than chunks
  exact chunks_encode hmajor cs hcs _ (by rw [List.length_append]; omega) rest

theorem IsString.lt {major : Nat} (h : IsString major) : major < 8 := by
  rcases h with rfl | rfl <;> decide

theorem IsContainer.lt {major count : Nat} (h : IsContainer major count) : major < 7 := by
  rcases h with rfl | ⟨rfl, -⟩ <;> decide

theorem IsNumber.lt {major n : Nat} {w : Width} (h : IsNumber major w n) : major < 8 := by
  rcases h with hlt | ⟨rfl, -⟩
  · omega
  · decide

theorem IsString.ne_tags {major : Nat} (h : IsString major) : major ≠ tags := by
  rcases h with rfl | rfl <;> decide

theorem IsContainer.ne_tags {major count : Nat} (h : IsContainer major count) : major ≠ tags := by
  rcases h with rfl | ⟨rfl, -⟩ <;> decide

/-- The five other major types are 2 to 6. -/
theorem IsNumber.ne {major n m : Nat} {w : Width} (h : IsNumber major w n) (hle : 2 ≤ m)
    (hlt : m ≤ 6) : major ≠ m := by
  rcases h with h | ⟨h, -⟩
  · omega
  · unfold simples at h
    omega

/-- No document begins with a break. -/
theorem startsBreak_encode {limits : Limits} {item : Document} {depth : Nat}
    (h : item.Valid limits depth) (rest : List UInt8) :
    startsBreak (item.encode ++ rest) = false := by
  cases item with
  | number major w n =>
      exact startsBreak_writeHead h.2.1.lt h.2.2 rest
  | string major w s =>
      rw [Document.encode, List.append_assoc]
      exact startsBreak_writeHead h.2.1.lt h.2.2 _
  | chunked major cs =>
      have hmajor : major < 7 := by
        rcases h.2.1 with rfl | rfl <;> decide
      exact startsBreak_openHead major hmajor _
  | tagged w n content =>
      rw [Document.encode, List.append_assoc]
      exact startsBreak_writeHead (by decide) h.2.1 _
  | container major w items =>
      have hmajor := h.2.1.lt
      rw [Document.encode, List.append_assoc]
      exact startsBreak_writeHead (by omega) h.2.2.1 _
  | indefinite major items => exact startsBreak_openHead major h.2.1.lt _

/-! ### Skipping -/

/-- Only simple values of two bytes begin with this byte. -/
theorem head?_writeHead {major n : Nat} {w : Width} (h : IsNumber major w n) (hn : w.Fits n)
    (rest : List UInt8) :
    ¬ ((writeHead major w n ++ rest).head? = some longSimple ∧ n < firstLongSimple) := by
  rintro ⟨hfirst, hlt⟩
  have hmajor := h.lt
  have hlong : longSimple.toNat = 32 * 7 + 24 := rfl
  cases w with
  | first =>
      have hn24 : n < 24 := hn
      -- the information is the value, below 24
      have hval := congrArg UInt8.toNat (Option.some.inj hfirst)
      rw [toNat_head major n hmajor (by omega)] at hval
      omega
  | after k =>
      have hk := k.isLt
      have hval := congrArg UInt8.toNat (Option.some.inj hfirst)
      rw [toNat_head major (24 + k.val) hmajor (by omega)] at hval
      rcases h with h | ⟨-, hle⟩
      · omega
      · have hk0 : k = 0 := Fin.ext (by omega)
        rw [hk0] at hle
        exact absurd (hle rfl) (by omega)

/-- A head is no string, tag or container: it is the whole item. -/
theorem skip_number {limits : Limits} {major n depth : Nat} {w : Width}
    (h : IsNumber major w n) (hn : w.Fits n) (rest : List UInt8) :
    skip limits (depth + 1) (writeHead major w n ++ rest) = some rest := by
  have hstring : ¬ (major = byteStrings ∨ major = textStrings) := by
    rintro (hc | hc)
    · exact h.ne (m := byteStrings) (by decide) (by decide) hc
    · exact h.ne (m := textStrings) (by decide) (by decide) hc
  unfold skip
  rw [head_writeHead h.lt hn]
  simp only
  rw [if_neg hstring, if_neg (h.ne (m := tags) (by decide) (by decide)),
    if_neg (h.ne (m := arrays) (by decide) (by decide)),
    if_neg (h.ne (m := maps) (by decide) (by decide)), if_neg (head?_writeHead h hn rest)]

theorem skip_string {limits : Limits} {major depth : Nat} (hmajor : IsString major)
    {bs s rest tail : List UInt8} {h : Head} (hhead : head bs = some (h, tail))
    (hh : h.major = major) (hs : string major bs = some (s, rest)) :
    skip limits (depth + 1) bs = some rest := by
  subst hh
  unfold skip
  rw [hhead]
  simp only
  rw [if_pos (show h.major = byteStrings ∨ h.major = textStrings from hmajor), hs]
  rfl

theorem skip_tagged {limits : Limits} {n depth : Nat} {w : Width} (hn : w.Fits n)
    (content : List UInt8) :
    skip limits (depth + 1) (writeHead tags w n ++ content) = skip limits depth content := by
  conv_lhs => unfold skip
  rw [head_writeHead (by decide) hn]
  simp only
  rw [if_neg (by decide), if_pos trivial]
  rfl

/-- The items of a container of definite length are counted, two for each entry
    of a map. -/
theorem skip_container {limits : Limits} {major count depth : Nat} {w : Width}
    (hmajor : IsContainer major count) (hn : w.Fits (entryCount major count))
    (hlimit : entryCount major count ≤ limits.elements) (items : List UInt8) :
    skip limits (depth + 1) (writeHead major w (entryCount major count) ++ items) =
      skipCount (skip limits depth) count items := by
  have hlt := hmajor.lt
  conv_lhs => unfold skip
  rw [head_writeHead (by omega) hn]
  simp only
  rcases hmajor with rfl | ⟨rfl, heven⟩
  · rw [if_neg (by decide), if_neg (by decide), if_pos rfl, if_pos hlimit]
    rfl
  · have htwice : 2 * entryCount maps count = count := by
      rw [entryCount, if_pos rfl]
      omega
    rw [if_neg (by decide), if_neg (by decide), if_neg (by decide), if_pos rfl, if_pos hlimit,
      htwice]

theorem skip_indefinite {limits : Limits} {major count depth : Nat}
    (hmajor : IsContainer major count) (items : List UInt8) :
    skip limits (depth + 1) (openHead major :: items) =
      skipBreak (skip limits depth) (items.length + 1) items := by
  have hlt := hmajor.lt
  conv_lhs => unfold skip
  rw [head_openHead major (by omega)]
  simp only
  rcases hmajor with rfl | ⟨rfl, -⟩
  · rw [if_neg (by decide), if_neg (by decide), if_pos (Or.inl rfl)]
  · rw [if_neg (by decide), if_neg (by decide), if_pos (Or.inr rfl)]

theorem Documents.count_le {limits : Limits} {items : Documents} {depth : Nat}
    (h : items.Valid limits depth) : items.count ≤ items.encode.length := by
  cases items with
  | nil => exact Nat.zero_le _
  | cons item rest =>
      have ih := Documents.count_le h.2
      have hpos : 0 < item.encode.length := by
        cases item with
        | number major w n => cases w <;> exact Nat.succ_pos _
        | chunked major cs => exact Nat.succ_pos _
        | indefinite major items => exact Nat.succ_pos _
        | string major w s =>
            rw [Document.encode, List.length_append]
            cases w <;> exact Nat.lt_of_lt_of_le (Nat.succ_pos _) (Nat.le_add_right _ _)
        | tagged w n content =>
            rw [Document.encode, List.length_append]
            cases w <;> exact Nat.lt_of_lt_of_le (Nat.succ_pos _) (Nat.le_add_right _ _)
        | container major w items =>
            rw [Document.encode, List.length_append]
            cases w <;> exact Nat.lt_of_lt_of_le (Nat.succ_pos _) (Nat.le_add_right _ _)
      rw [Documents.count, Documents.encode, List.length_append]
      omega

mutual

/-- The bytes of a document are skipped, and no more. -/
theorem skip_encode {limits : Limits} (item : Document) (depth : Nat)
    (h : item.Valid limits depth) (rest : List UInt8) :
    skip limits depth (item.encode ++ rest) = some rest := by
  cases item with
  | number major w n =>
      obtain ⟨depth, rfl⟩ : ∃ n, depth = n + 1 := ⟨depth - 1, have := h.1; by omega⟩
      exact skip_number h.2.1 h.2.2 rest
  | string major w s =>
      obtain ⟨depth, rfl⟩ : ∃ n, depth = n + 1 := ⟨depth - 1, have := h.1; by omega⟩
      have hstring := string_writeHead h.2.1.lt s h.2.2 rest
      have hhead := head_writeHead h.2.1.lt h.2.2 (s ++ rest)
      rw [← List.append_assoc] at hhead
      exact skip_string h.2.1 hhead rfl hstring
  | chunked major cs =>
      obtain ⟨depth, rfl⟩ : ∃ n, depth = n + 1 := ⟨depth - 1, have := h.1; by omega⟩
      exact skip_string h.2.1 (head_openHead major h.2.1.lt _) rfl
        (string_openHead h.2.1.lt cs h.2.2 rest)
  | tagged w n content =>
      obtain ⟨depth, rfl⟩ : ∃ n, depth = n + 1 := ⟨depth - 1, have := h.1; by omega⟩
      rw [Document.encode, List.append_assoc, skip_tagged h.2.1]
      exact skip_encode content depth h.2.2 rest
  | container major w items =>
      obtain ⟨depth, rfl⟩ : ∃ n, depth = n + 1 := ⟨depth - 1, have := h.1; by omega⟩
      rw [Document.encode, List.append_assoc, skip_container h.2.1 h.2.2.1 h.2.2.2.1]
      exact skipCount_encode items depth h.2.2.2.2 rest
  | indefinite major items =>
      obtain ⟨depth, rfl⟩ : ∃ n, depth = n + 1 := ⟨depth - 1, have := h.1; by omega⟩
      have hcount := Documents.count_le h.2.2
      rw [Document.encode, List.cons_append, skip_indefinite h.2.1, List.append_assoc]
      -- each item has a byte at least, so the bytes bound the items
      refine skipBreak_encode items depth h.2.2 rest _ ?_
      rw [List.length_append]
      omega

theorem skipCount_encode {limits : Limits} (items : Documents) (depth : Nat)
    (h : items.Valid limits depth) (rest : List UInt8) :
    skipCount (skip limits depth) items.count (items.encode ++ rest) = some rest := by
  cases items with
  | nil => rfl
  | cons item more =>
      rw [Documents.encode, List.append_assoc, Documents.count, skipCount,
        skip_encode item depth h.1]
      exact skipCount_encode more depth h.2 rest

theorem skipBreak_encode {limits : Limits} (items : Documents) (depth : Nat)
    (h : items.Valid limits depth) (rest : List UInt8) (k : Nat) (hk : items.count < k) :
    skipBreak (skip limits depth) k (items.encode ++ ([breakByte] ++ rest)) = some rest := by
  obtain ⟨k, rfl⟩ : ∃ n, k = n + 1 := ⟨k - 1, by omega⟩
  cases items with
  | nil => exact if_pos (startsBreak_break rest)
  | cons item more =>
      rw [Documents.count] at hk
      rw [Documents.encode, List.append_assoc, skipBreak, startsBreak_encode h.1,
        if_neg Bool.false_ne_true, skip_encode item depth h.1]
      exact skipBreak_encode more depth h.2 rest k (by omega)

end

/-! ### Searching -/

/-- An item is read by its head. -/
theorem head_encode {limits : Limits} {item : Document} {depth : Nat}
    (h : item.Valid limits depth) (rest : List UInt8) :
    ∃ argument tail, head (item.encode ++ rest) = some (⟨item.major, argument⟩, tail) := by
  cases item with
  | number major w n => exact ⟨_, _, head_writeHead h.2.1.lt h.2.2 rest⟩
  | string major w s =>
      rw [Document.encode, List.append_assoc]
      exact ⟨_, _, head_writeHead h.2.1.lt h.2.2 _⟩
  | chunked major cs => exact ⟨_, _, head_openHead major h.2.1.lt _⟩
  | tagged w n content =>
      rw [Document.encode, List.append_assoc]
      exact ⟨_, _, head_writeHead (by decide) h.2.1 _⟩
  | container major w items =>
      have hmajor := h.2.1.lt
      rw [Document.encode, List.append_assoc]
      exact ⟨_, _, head_writeHead (by omega) h.2.2.1 _⟩
  | indefinite major items =>
      have hmajor := h.2.1.lt
      exact ⟨_, _, head_openHead major (by omega) _⟩

/-- Only text strings have the major type of text strings. -/
theorem Document.isSome_text?_iff {limits : Limits} {item : Document} {depth : Nat}
    (h : item.Valid limits depth) : item.text?.isSome = true ↔ item.major = textStrings := by
  cases item with
  | number major w n =>
      exact iff_of_false Bool.false_ne_true (h.2.1.ne (m := textStrings) (by decide) (by decide))
  | tagged w n content => exact iff_of_false Bool.false_ne_true (by decide : tags ≠ textStrings)
  | container major w items =>
      refine iff_of_false Bool.false_ne_true (fun hc : major = textStrings => ?_)
      rcases h.2.1 with rfl | ⟨rfl, -⟩ <;> cases hc
  | indefinite major items =>
      refine iff_of_false Bool.false_ne_true (fun hc : major = textStrings => ?_)
      rcases h.2.1 with rfl | ⟨rfl, -⟩ <;> cases hc
  | _ => simp only [Document.text?, Document.major, Option.isSome_ite]

/-- Only maps have the major type of maps. -/
theorem Document.isSome_entries?_iff {limits : Limits} {item : Document} {depth : Nat}
    (h : item.Valid limits depth) : item.entries?.isSome = true ↔ item.major = maps := by
  cases item with
  | number major w n =>
      exact iff_of_false Bool.false_ne_true (h.2.1.ne (m := maps) (by decide) (by decide))
  | tagged w n content => exact iff_of_false Bool.false_ne_true (by decide : tags ≠ maps)
  | string major w s =>
      refine iff_of_false Bool.false_ne_true (fun hc : major = maps => ?_)
      rcases h.2.1 with rfl | rfl <;> cases hc
  | chunked major cs =>
      refine iff_of_false Bool.false_ne_true (fun hc : major = maps => ?_)
      rcases h.2.1 with rfl | rfl <;> cases hc
  | _ => simp only [Document.entries?, Document.major, Option.isSome_ite]

/-- The text of an item is read from its bytes. -/
theorem text_encode {limits : Limits} {item : Document} {depth : Nat}
    (h : item.Valid limits depth) (rest : List UInt8) :
    text (item.encode ++ rest) = item.text? := by
  by_cases hmajor : item.major = textStrings
  · cases item with
    | string major w s =>
        obtain rfl : major = textStrings := hmajor
        rw [Document.text?, if_pos rfl, text, Document.encode,
          string_writeHead (by decide) s h.2.2 rest]
        rfl
    | chunked major cs =>
        obtain rfl : major = textStrings := hmajor
        rw [Document.text?, if_pos rfl, text, Document.encode,
          string_openHead (by decide) cs h.2.2 rest]
        rfl
    | _ => exact absurd ((Document.isSome_text?_iff h).mpr hmajor) Bool.false_ne_true
  · -- another item has no text, and neither have its bytes
    have hnone : item.text? = none := by
      rw [← Option.not_isSome_iff_eq_none, Document.isSome_text?_iff h]
      exact hmajor
    rw [hnone]
    refine Option.eq_none_iff_forall_ne_some.mpr (fun s hs => ?_)
    rcases head_of_text hs with ⟨hd, tail, hhead, htext⟩
    rcases head_encode h rest with ⟨argument, tail', hhead'⟩
    rw [hhead] at hhead'
    cases hhead'
    exact hmajor htext

/-- The bytes of maps start with a map. -/
theorem isMap_encode {limits : Limits} {item : Document} {depth : Nat}
    (h : item.Valid limits depth) (rest : List UInt8) :
    isMap (item.encode ++ rest) = item.entries?.isSome := by
  rcases head_encode h rest with ⟨argument, tail, hhead⟩
  rw [Bool.eq_iff_iff, Document.isSome_entries?_iff h, isMap, hhead, beq_iff_eq]

/-- Behind its tags, an item has none. -/
theorem untag_of_major {limits : Limits} {item : Document} {depth : Nat}
    (h : item.Valid limits depth) (hne : item.major ≠ tags) (k : Nat) (rest : List UInt8) :
    untag k (item.encode ++ rest) = item.encode ++ rest := by
  rcases head_encode h rest with ⟨argument, tail, hhead⟩
  cases k with
  | zero => rfl
  | succ k =>
      unfold untag
      rw [hhead]
      cases argument with
      | none => rfl
      | some n => exact if_neg hne

/-- The tags before an item are skipped. -/
theorem untag_encode {limits : Limits} (item : Document) (depth : Nat)
    (h : item.Valid limits depth) (k : Nat) (hk : item.encode.length ≤ k) (rest : List UInt8) :
    untag k (item.encode ++ rest) = item.untagged.encode ++ rest := by
  cases item with
  | number major w n =>
      exact untag_of_major h (h.2.1.ne (m := tags) (by decide) (by decide)) k rest
  | string major w s => exact untag_of_major h h.2.1.ne_tags k rest
  | chunked major cs => exact untag_of_major h h.2.1.ne_tags k rest
  | container major w items => exact untag_of_major h h.2.1.ne_tags k rest
  | indefinite major items => exact untag_of_major h h.2.1.ne_tags k rest
  | tagged w n content =>
      have hlen : content.encode.length + 1 ≤ k := by
        refine Nat.le_trans ?_ hk
        rw [Document.encode, List.length_append]
        have hhead : 1 ≤ (writeHead tags w n).length := by
          cases w <;> exact Nat.succ_pos _
        omega
      obtain ⟨k, rfl⟩ : ∃ m, k = m + 1 := ⟨k - 1, by omega⟩
      rw [Document.untagged, Document.encode, List.append_assoc, untag,
        head_writeHead (by decide) h.2.1]
      simp only [if_true]
      -- the content has no more tags than bytes, either
      exact untag_encode content (depth - 1) h.2.2 k (by omega) rest

/-- What is behind the tags is valid too. -/
theorem Document.valid_untagged {limits : Limits} (item : Document) (depth : Nat)
    (h : item.Valid limits depth) : ∃ depth', item.untagged.Valid limits depth' := by
  cases item with
  | tagged w n content => exact Document.valid_untagged content (depth - 1) h.2.2
  | _ => exact ⟨depth, h⟩

/-- The text of a key is read behind its tags. -/
theorem text_untag {limits : Limits} {item : Document} {depth : Nat}
    (h : item.Valid limits depth) (rest : List UInt8) :
    text (untag (item.encode ++ rest).length (item.encode ++ rest)) = item.untagged.text? := by
  rcases Document.valid_untagged item depth h with ⟨depth', h'⟩
  rw [untag_encode item depth h _ (by rw [List.length_append]; omega) rest]
  exact text_encode h' rest

/-- What the search of the entries comes to: the first value of the key, with
    the bytes of what follows it. -/
def foundIn (key : List UInt8) (items : Documents) (rest : List UInt8) : Found :=
  match items.lookup key with
  | some (value, more) => .at (value.encode ++ (more.encode ++ rest))
  | none => .absent

/-- The search of counted entries. -/
theorem find_counted {limits : Limits} {depth : Nat} (key : List UInt8) (n : Nat)
    (items : Documents) (hcount : items.count = 2 * n) (h : items.Valid limits depth)
    (rest : List UInt8) :
    find (skip limits depth) key true n (items.encode ++ rest) = foundIn key items rest := by
  induction n generalizing items with
  | zero =>
      cases items with
      | nil => rfl
      | cons item more =>
          rw [Documents.count] at hcount
          omega
  | succ n ih =>
      match items, hcount, h with
      | .cons k .nil, hcount, _ =>
          simp only [Documents.count] at hcount
          omega
      | .cons k (.cons value more), hcount, h =>
          simp only [Documents.count] at hcount
          have hrest := ih more (by omega) h.2.2
          rw [Documents.encode, Documents.encode, List.append_assoc, List.append_assoc, find,
            if_neg (by rintro ⟨hc, -⟩; cases hc), skip_encode k depth h.1]
          simp only
          rw [text_untag h.1, skip_encode value depth h.2.1]
          unfold foundIn Documents.lookup
          by_cases hkey : k.untagged.text? = some key
          · rw [if_pos hkey, if_pos hkey]
          · rw [if_neg hkey, if_neg hkey]
            exact hrest

/-- The search of entries up to a break. -/
theorem find_indefinite {limits : Limits} {depth : Nat} (key : List UInt8) (n : Nat)
    (items : Documents) (heven : items.count % 2 = 0) (hcount : items.count < n)
    (h : items.Valid limits depth) (rest : List UInt8) :
    find (skip limits depth) key false n (items.encode ++ ([breakByte] ++ rest)) =
      foundIn key items ([breakByte] ++ rest) := by
  induction n generalizing items with
  | zero => omega
  | succ n ih =>
      match items, heven, hcount, h with
      | .nil, _, _, _ => exact if_pos ⟨rfl, startsBreak_break rest⟩
      | .cons k .nil, heven, _, _ =>
          simp only [Documents.count] at heven
          omega
      | .cons k (.cons value more), heven, hcount, h =>
          simp only [Documents.count] at heven hcount
          have hrest := ih more (by omega) (by omega) h.2.2
          rw [Documents.encode, Documents.encode, List.append_assoc, List.append_assoc, find,
            startsBreak_encode h.1, if_neg (by rintro ⟨-, hc⟩; cases hc),
            skip_encode k depth h.1]
          simp only
          rw [text_untag h.1, skip_encode value depth h.2.1]
          unfold foundIn Documents.lookup
          by_cases hkey : k.untagged.text? = some key
          · rw [if_pos hkey, if_pos hkey]
          · rw [if_neg hkey, if_neg hkey]
            exact hrest

/-- A value that is found is valid, and so is what follows it. -/
theorem Documents.valid_lookup {limits : Limits} {key : List UInt8} {depth : Nat}
    {items more : Documents} {value : Document} (h : items.Valid limits depth)
    (hl : items.lookup key = some (value, more)) :
    value.Valid limits depth ∧ more.Valid limits depth := by
  match items, h, hl with
  | .cons k (.cons v rest), h, hl =>
      unfold Documents.lookup at hl
      split at hl
      · cases hl
        exact h.2
      · exact Documents.valid_lookup h.2.2 hl

/-- Maps are the documents with entries, in two forms. -/
theorem Document.of_entries {item : Document} {items : Documents}
    (h : item.entries? = some items) :
    (∃ w, item = .container maps w items) ∨ item = .indefinite maps items := by
  cases item with
  | container major w items' =>
      by_cases hmajor : major = maps
      · subst hmajor
        cases h
        exact Or.inl ⟨w, rfl⟩
      · rw [Document.entries?, if_neg hmajor] at h
        cases h
  | indefinite major items' =>
      by_cases hmajor : major = maps
      · subst hmajor
        cases h
        exact Or.inr rfl
      · rw [Document.entries?, if_neg hmajor] at h
        cases h
  | _ => cases h

/-- The entries of a map are valid one level below it. -/
theorem Document.valid_entries {limits : Limits} {item : Document} {items : Documents} {depth : Nat}
    (h : item.Valid limits (depth + 1)) (he : item.entries? = some items) :
    items.Valid limits depth ∧ items.count % 2 = 0 := by
  have heven : ∀ {count : Nat}, IsContainer maps count → count % 2 = 0 := by
    rintro count (hc | hc)
    · cases hc
    · exact hc.2
  rcases Document.of_entries he with ⟨w, rfl⟩ | rfl
  · exact ⟨h.2.2.2.2, heven h.2.1⟩
  · exact ⟨h.2.2, heven h.2.1⟩

/-- The search of a map finds the first value of the key, and nothing if there is
    none, whatever comes before and after. -/
theorem mapFind_encode {limits : Limits} {item : Document} {items : Documents}
    (h : item.Valid limits (limits.nesting + 1)) (he : item.entries? = some items)
    (key rest : List UInt8) :
    ∃ tail, mapFind limits (item.encode ++ rest) key = foundIn key items tail := by
  rcases Document.valid_entries h he with ⟨hitems, heven⟩
  rcases Document.of_entries he with ⟨w, rfl⟩ | rfl
  · rcases h with ⟨-, -, hfits, hlimit, -⟩
    have htwice : items.count = 2 * entryCount maps items.count := by
      rw [entryCount, if_pos rfl]
      omega
    refine ⟨rest, ?_⟩
    unfold mapFind
    rw [Document.encode, List.append_assoc, head_writeHead (by decide) hfits]
    simp only
    rw [if_pos trivial, if_pos hlimit]
    exact find_counted key _ items htwice hitems rest
  · have hcount := Documents.count_le hitems
    refine ⟨[breakByte] ++ rest, ?_⟩
    unfold mapFind
    rw [Document.encode, List.cons_append, head_openHead maps (by decide), List.append_assoc]
    simp only
    rw [if_pos trivial]
    refine find_indefinite key _ items heven ?_ hitems rest
    rw [List.length_append]
    omega

end Cbor
