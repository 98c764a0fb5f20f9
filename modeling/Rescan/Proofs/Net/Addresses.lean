import Mathlib.Data.List.Basic
import Rescan.Net.SocketAddress
import Rescan.Proofs.Text.Digits

/-! # Addresses as texts

Every address is read from its text, whatever follows it that is no part of an address.
-/

namespace Rescan.Net

open Rescan.Text (Stops stops_cons digits)

/-! ## Numbers -/

theorem readDigits?_digits {base : Nat} (hbase : 2 ≤ base) (hsixteen : base ≤ 16)
    {limit : Option Nat} {n : Nat} (hlimit : ∀ most ∈ limit, (digits base n).length ≤ most)
    {rest : List Char} (hrest : Stops (Text.isDigitOf base) rest) :
    readDigits? base limit (digits base n ++ rest) = some (digits base n, rest) := by
  have hall : ∀ c ∈ digits base n, Text.isDigitOf base c = true :=
    fun c hmem => Text.isDigitOf_of_mem_digits hbase hsixteen hmem
  have hfits : limit.any (· < (digits base n).length) = false := by
    cases limit with
    | none => rfl
    | some most => simpa using hlimit most rfl
  rw [readDigits?, hrest.takeWhile_append hall, hrest.dropWhile_append hall, hfits]
  simp [Text.digits_ne_nil]

theorem readBelow?_digits {base : Nat} (hbase : 2 ≤ base) (hsixteen : base ≤ 16)
    {limit : Option Nat} {bound n : Nat} (hn : n < bound)
    (hlimit : ∀ most ∈ limit, (digits base n).length ≤ most)
    {rest : List Char} (hrest : Stops (Text.isDigitOf base) rest) :
    readBelow? base limit bound (digits base n ++ rest) = some (n, rest) := by
  rw [readBelow?, readDigits?_digits hbase hsixteen hlimit hrest]
  simp [Text.digitsValue_digits hbase hsixteen, hn]

/-- No number begins with a character that is no digit. -/
theorem readDigits?_of_stops {base : Nat} {limit : Option Nat} {input : List Char}
    (hinput : Stops (Text.isDigitOf base) input) : readDigits? base limit input = none := by
  simp [readDigits?, hinput.takeWhile_eq_nil]

@[simp] theorem readChar?_cons (c : Char) (rest : List Char) :
    readChar? c (c :: rest) = some rest :=
  if_pos rfl

/-! ## Version 4 -/

namespace Ipv4

theorem readOctet?_digits (octet : UInt8) {rest : List Char}
    (hrest : Stops (Text.isDigitOf 10) rest) :
    readOctet? (digits 10 octet.toNat ++ rest) = some (octet, rest) := by
  have hbound : octet.toNat < 256 := octet.toNat_lt
  have hlength : (digits 10 octet.toNat).length ≤ 3 :=
    Text.length_digits_le (by decide) (by decide) (by omega)
  have hzero : (digits 10 octet.toNat).head? = some '0' → (digits 10 octet.toNat).length ≤ 1 := by
    intro hhead
    have hnone : octet.toNat = 0 := by
      by_contra hsome
      exact Text.head?_digits_ne_zero (by decide) (by decide) hsome hhead
    exact Text.length_digits_le (by decide) (by decide) (by omega)
  rw [readOctet?, readDigits?_digits (by decide) (by decide) (by simpa using hlength) hrest]
  simpa [Text.digitsValue_digits, hbound] using hzero

/-- An octet ends where its digits end. -/
theorem rest_of_readOctet? {input : List Char} {octet : UInt8} {rest : List Char}
    (hoctet : readOctet? input = some (octet, rest)) :
    rest = input.dropWhile (Text.isDigitOf 10) := by
  obtain ⟨⟨digits, after⟩, hdigits, hoctet⟩ := Option.bind_eq_some_iff.mp hoctet
  dsimp only at hoctet
  split at hoctet
  · cases hoctet
  · cases hoctet
    rw [readDigits?] at hdigits
    split at hdigits
    · cases hdigits
    · cases hdigits
      rfl

theorem read?_render (ip : Ipv4) {rest : List Char} (hrest : Stops (Text.isDigitOf 10) rest) :
    read? (ip.render.toList ++ rest) = some (ip, rest) := by
  have hdot (more : List Char) : Stops (Text.isDigitOf 10) ('.' :: more) :=
    stops_cons.mpr (by decide)
  have htext : ip.render.toList ++ rest = digits 10 ip.a.toNat ++ '.' :: (digits 10 ip.b.toNat ++
      '.' :: (digits 10 ip.c.toNat ++ '.' :: (digits 10 ip.d.toNat ++ rest))) := by
    simp [render]
  rw [htext, read?]
  simp only [readOctet?_digits _ (hdot _), readOctet?_digits _ hrest, readChar?_cons,
    Option.bind_eq_bind, Option.bind_some, Option.pure_def]

/-- No address begins where no dot follows the first digits. -/
theorem read?_of_no_dot {input : List Char}
    (hinput : (input.dropWhile (Text.isDigitOf 10)).head? ≠ some '.') : read? input = none := by
  have hdot : readChar? '.' (input.dropWhile (Text.isDigitOf 10)) = none := by
    cases hdrop : input.dropWhile (Text.isDigitOf 10) with
    | nil => rfl
    | cons c rest =>
        rw [hdrop] at hinput
        exact if_neg fun hc => hinput (congrArg some hc)
  rw [read?]
  cases hoctet : readOctet? input with
  | none => rfl
  | some found =>
      obtain ⟨octet, rest⟩ := found
      rw [Option.bind_eq_bind, Option.bind_some]
      dsimp only
      rw [rest_of_readOctet? hoctet, hdot]
      rfl

end Ipv4

/-! ## Version 6 -/

namespace Ipv6

/-- A text that ends the pieces of an address, or stands for the zeros between them. -/
inductive Closes : List Char → Prop where
  | bracket (rest : List Char) : Closes (']' :: rest)
  | scope (rest : List Char) : Closes ('%' :: rest)
  | gap (rest : List Char) : Closes (':' :: ':' :: rest)

/-- Pieces with a colon before each. -/
def afterColons (pieces : List UInt16) : List Char :=
  pieces.flatMap fun piece => ':' :: digits 16 piece.toNat

theorem toList_renderPieces_cons (piece : UInt16) (pieces : List UInt16) :
    (renderPieces (piece :: pieces)).toList = digits 16 piece.toNat ++ afterColons pieces := by
  induction pieces generalizing piece with
  | nil => simp [renderPieces, afterColons]
  | cons next pieces ih =>
      have hnext := ih next
      rw [renderPieces, List.map_cons] at hnext
      rw [renderPieces, List.map_cons, List.map_cons, String.intercalate_cons_cons,
        String.toList_append, String.toList_append, hnext, String.toList_ofList]
      simp [afterColons]

/-- A character that can stand in a piece, or in an address of version 4 in its place. -/
def isPieceChar (c : Char) : Bool := Text.isDigitOf 16 c || c == '.'

theorem Closes.stops {rest : List Char} (hrest : Closes rest) : Stops isPieceChar rest := by
  cases hrest <;> exact stops_cons.mpr (by decide)

theorem stops_afterColons (pieces : List UInt16) {rest : List Char}
    (hrest : Stops isPieceChar rest) : Stops isPieceChar (afterColons pieces ++ rest) := by
  cases pieces with
  | nil => exact hrest
  | cons piece pieces => exact stops_cons.mpr (by decide)

section Piece

variable {rest : List Char} (hrest : Stops isPieceChar rest)

include hrest

theorem stops_hex : Stops (Text.isDigitOf 16) rest := by
  intro c hmem
  have hc := hrest c hmem
  simp only [isPieceChar, Bool.or_eq_false_iff] at hc
  exact hc.1

theorem stops_decimal : Stops (Text.isDigitOf 10) rest := by
  intro c hmem
  have hc := stops_hex hrest c hmem
  unfold Text.isDigitOf at hc ⊢
  split at hc
  · simp_all
    omega
  · rfl

theorem head?_ne_dot : rest.head? ≠ some '.' := by
  intro hhead
  cases hrest '.' (by simp [hhead])

/-- No address of version 4 begins with a piece. -/
theorem readV4?_piece (piece : UInt16) : Ipv4.read? (digits 16 piece.toNat ++ rest) = none := by
  apply Ipv4.read?_of_no_dot
  rw [List.dropWhile_append]
  split
  next =>
    rw [(stops_decimal hrest).dropWhile_eq_self]
    exact head?_ne_dot hrest
  next hletter =>
    intro hhead
    rw [List.head?_append_of_ne_nil _ (by simpa using hletter)] at hhead
    have hmem : '.' ∈ digits 16 piece.toNat := List.dropWhile_subset _ (List.mem_of_head? hhead)
    cases Text.isDigitOf_of_mem_digits (by decide) (by decide) hmem

/-- A piece is read, the first one without a colon before it, and then the ones that follow. -/
theorem readPieces_piece (first : Bool) (room : Nat) (piece : UInt16) :
    readPieces first (room + 1)
        ((if first then [] else [':']) ++ (digits 16 piece.toNat ++ rest)) =
      (piece :: (readPieces false room rest).1, (readPieces false room rest).2) := by
  have hbelow : readBelow? 16 (some 4) 0x10000 (digits 16 piece.toNat ++ rest) =
      some (piece.toNat, rest) := by
    have hbound : piece.toNat < 0x10000 := piece.toNat_lt
    refine readBelow?_digits (by decide) (by decide) hbound ?_ (stops_hex hrest)
    simpa using Text.length_digits_le (by decide) (by decide) hbound
  cases first <;> simp [readPieces, readV4?_piece hrest piece, hbelow]

theorem readV4?_of_stops : Ipv4.read? rest = none := by
  apply Ipv4.read?_of_no_dot
  rw [(stops_decimal hrest).dropWhile_eq_self]
  exact head?_ne_dot hrest

theorem readHex?_of_stops : readBelow? 16 (some 4) 0x10000 rest = none := by
  rw [readBelow?, readDigits?_of_stops (stops_hex hrest)]
  rfl

/-- Where no piece begins, none is read. -/
theorem readPieces_of_stops (room : Nat) : readPieces true room rest = ([], false, rest) := by
  cases room <;> simp [readPieces, readV4?_of_stops hrest, readHex?_of_stops hrest]

end Piece

theorem Closes.readPieces_false {rest : List Char} (hrest : Closes rest) (room : Nat) :
    readPieces false room rest = ([], false, rest) := by
  cases room with
  | zero => rfl
  | succ room =>
      cases hrest with
      | bracket rest => rfl
      | scope rest => rfl
      | gap rest =>
          -- After the first colon stands the second one, which begins no piece.
          have hcolon : Stops isPieceChar (':' :: rest) := stops_cons.mpr (by decide)
          simp [readPieces, readV4?_of_stops hcolon, readHex?_of_stops hcolon]

/-- Pieces are read from their text. -/
theorem readPieces_afterColons {room : Nat} {pieces : List UInt16} (hroom : pieces.length ≤ room)
    {rest : List Char} (hrest : Closes rest) :
    readPieces false room (afterColons pieces ++ rest) = (pieces, false, rest) := by
  induction pieces generalizing room with
  | nil => exact hrest.readPieces_false room
  | cons piece pieces ih =>
      obtain ⟨room, rfl⟩ := Nat.exists_eq_succ_of_ne_zero (show room ≠ 0 by rintro rfl; cases hroom)
      have hpiece := readPieces_piece (stops_afterColons pieces hrest.stops) false room piece
      rw [ih (Nat.le_of_succ_le_succ hroom)] at hpiece
      simpa [afterColons] using hpiece

theorem readPieces_renderPieces {room : Nat} {pieces : List UInt16} (hroom : pieces.length ≤ room)
    {rest : List Char} (hrest : Closes rest) :
    readPieces true room ((renderPieces pieces).toList ++ rest) = (pieces, false, rest) := by
  cases pieces with
  | nil => exact readPieces_of_stops hrest.stops room
  | cons piece pieces =>
      obtain ⟨room, rfl⟩ := Nat.exists_eq_succ_of_ne_zero (show room ≠ 0 by rintro rfl; cases hroom)
      have hpiece := readPieces_piece (stops_afterColons pieces hrest.stops) true room piece
      rw [readPieces_afterColons (Nat.le_of_succ_le_succ hroom) hrest] at hpiece
      simpa [toList_renderPieces_cons] using hpiece

/-! ### The zeros that are left out -/

theorem eq_replicate_append_drop (pieces : List UInt16) :
    pieces = List.replicate (zeroRun pieces) 0 ++ pieces.drop (zeroRun pieces) := by
  induction pieces with
  | nil => rfl
  | cons piece rest ih =>
      by_cases hzero : piece = 0
      · rw [zeroRun, List.takeWhile_cons_of_pos (by simpa using hzero), List.length_cons, ← zeroRun,
          List.replicate_succ, List.drop_succ_cons, List.cons_append, ← ih, hzero]
      · rw [zeroRun, List.takeWhile_cons_of_neg (by simpa using hzero)]
        rfl

/-- The run of zeros that is told stands in the list. -/
theorem longestZeroRun_spec (pieces : List UInt16) :
    pieces = pieces.take (longestZeroRun pieces).1 ++
      (List.replicate (longestZeroRun pieces).2 0 ++
        pieces.drop ((longestZeroRun pieces).1 + (longestZeroRun pieces).2)) := by
  induction pieces with
  | nil => rfl
  | cons piece rest ih =>
      rw [longestZeroRun]
      dsimp only
      split
      · simpa using eq_replicate_append_drop (piece :: rest)
      · simpa [Nat.add_right_comm _ 1] using ih

theorem ofEnds?_ends (ip : Ipv6) {head tail : List UInt16} (zeros : Nat)
    (hpieces : ip.pieces = head ++ (List.replicate zeros 0 ++ tail)) :
    ofEnds? head tail = some ip := by
  have hlength := ip.length_pieces
  rw [hpieces, List.length_append, List.length_append, List.length_replicate] at hlength
  have hzeros : 8 - head.length - tail.length = zeros := by omega
  have hsame : head ++ List.replicate zeros 0 ++ tail = ip.pieces := by
    rw [hpieces, List.append_assoc]
  simp only [ofEnds?, hzeros, hsame, ip.length_pieces, dif_pos]

/-- Two colons stand for the zeros between the pieces before them and after them. -/
theorem read?_gap (ip : Ipv6) (head : List UInt16) {tail : List UInt16} {zeros : Nat}
    (hzeros : zeros ≠ 0) (hpieces : ip.pieces = head ++ (List.replicate zeros 0 ++ tail))
    {more rest : List Char} {dotted : Bool}
    (htail : readPieces true (7 - head.length) more = (tail, dotted, rest)) :
    read? ((renderPieces head).toList ++ ':' :: ':' :: more) = some (ip, rest) := by
  have hlength := congrArg List.length hpieces
  rw [ip.length_pieces, List.length_append, List.length_append, List.length_replicate] at hlength
  rw [read?, readPieces_renderPieces (by omega) (Closes.gap more)]
  dsimp only
  rw [if_neg (by omega), if_neg (by decide)]
  simp only [htail, ofEnds?_ends ip zeros hpieces, Option.map_some]

/-- The text in hexadecimal is read. -/
theorem read?_renderHex (ip : Ipv6) {rest : List Char} (hrest : Closes rest) :
    read? (ip.renderHex.toList ++ rest) = some (ip, rest) := by
  have hlength := ip.length_pieces
  have hpieces := longestZeroRun_spec ip.pieces
  rw [renderHex]
  generalize longestZeroRun ip.pieces = run at hpieces ⊢
  obtain ⟨before, zeros⟩ := run
  dsimp only at hpieces ⊢
  split
  next =>
    rw [read?, readPieces_renderPieces (by omega) hrest]
    have hends : ofEnds? ip.pieces [] = some ip := ofEnds?_ends ip 0 (by simp)
    simp [hlength, hends]
  next hmany =>
    have hsum := congrArg List.length hpieces
    simp only [List.length_append, List.length_take, List.length_replicate, List.length_drop,
      hlength] at hsum
    have hroom : (ip.pieces.drop (before + zeros)).length ≤
        7 - (ip.pieces.take before).length := by
      rw [List.length_drop, List.length_take]
      omega
    have hread := read?_gap ip _ (by omega) hpieces (readPieces_renderPieces hroom hrest)
    simpa using hread

/-! ### Addresses of version 4 within -/

theorem piecesOf_ofNat (high low : UInt16) :
    piecesOf (Ipv4.ofNat (high.toNat * 0x10000 + low.toNat)) = [high, low] := by
  have hhigh := high.toNat_lt
  have hlow := low.toNat_lt
  simp only [piecesOf, Ipv4.ofNat, UInt8.toNat_ofNat']
  congr
  · rw [← UInt16.toNat_inj, UInt16.toNat_ofNat']
    omega
  · rw [← UInt16.toNat_inj, UInt16.toNat_ofNat']
    omega

theorem of_mapped?_eq_some {ip : Ipv6} {v4 : Ipv4} (hmapped : ip.mapped? = some v4) :
    ip.pieces = List.replicate 5 0 ++ (0xFFFF :: piecesOf v4) := by
  unfold mapped? at hmapped
  split at hmapped
  next high low hpieces =>
    cases hmapped
    rw [hpieces, piecesOf_ofNat]
    rfl
  · cases hmapped

/-- In place of the last two pieces an address of version 4 is read. -/
theorem readPieces_v4 (room : Nat) (v4 : Ipv4) {rest : List Char}
    (hrest : Stops (Text.isDigitOf 10) rest) :
    readPieces false (room + 2) (':' :: (v4.render.toList ++ rest)) =
      (piecesOf v4, true, rest) := by
  simp [readPieces, Ipv4.read?_render v4 hrest]

theorem read?_render (ip : Ipv6) {rest : List Char} (hrest : Closes rest) :
    read? (ip.render.toList ++ rest) = some (ip, rest) := by
  unfold render
  split
  next v4 hmapped =>
    have hcolon : Stops isPieceChar (':' :: (v4.render.toList ++ rest)) :=
      stops_cons.mpr (by decide)
    have hmore := readPieces_piece hcolon true 6 0xFFFF
    rw [readPieces_v4 4 v4 (stops_decimal hrest.stops)] at hmore
    have hread := read?_gap ip [] (show 5 ≠ 0 by decide) (of_mapped?_eq_some hmapped) hmore
    have hpiece : digits 16 (0xFFFF : UInt16).toNat = ['f', 'f', 'f', 'f'] := by decide +kernel
    rw [hpiece] at hread
    simpa [renderPieces] using hread
  · exact read?_renderHex ip hrest

end Ipv6

/-! ## Addresses with a port -/

namespace SocketAddress

theorem readPort?_digits (port : UInt16) :
    readPort? (':' :: digits 10 port.toNat) = some port := by
  have hread : readBelow? 10 none 0x10000 (digits 10 port.toNat ++ []) = some (port.toNat, []) :=
    readBelow?_digits (by decide) (by decide) port.toNat_lt (by simp) (Text.stops_nil _)
  rw [List.append_nil] at hread
  simp [readPort?, hread]

/-- The scope of an address as it is written before the bracket. -/
def scopeText (scope : UInt32) : List Char :=
  if scope = 0 then [] else '%' :: digits 10 scope.toNat

theorem closes_scopeText (scope : UInt32) (rest : List Char) :
    Ipv6.Closes (scopeText scope ++ ']' :: rest) := by
  unfold scopeText
  split
  · exact .bracket rest
  · exact .scope _

theorem readScope?_scopeText (scope : UInt32) (rest : List Char) :
    readScope? (scopeText scope ++ ']' :: rest) = some (scope, ']' :: rest) := by
  unfold scopeText
  split
  next hzero => rw [hzero]; rfl
  next =>
    have hread : readBelow? 10 none 0x100000000 (digits 10 scope.toNat ++ ']' :: rest) =
        some (scope.toNat, ']' :: rest) :=
      readBelow?_digits (by decide) (by decide) scope.toNat_lt (by simp)
        (stops_cons.mpr (by decide))
    simp [readScope?, hread]

theorem toList_render_v6 (ip : Ipv6) (scope : UInt32) (port : UInt16) :
    (render (.v6 ip scope port)).toList =
      '[' :: (ip.render.toList ++ (scopeText scope ++ ']' :: ':' :: digits 10 port.toNat)) := by
  simp only [render, scopeText]
  split <;> simp

theorem readV4?_bracket (rest : List Char) : readV4? ('[' :: rest) = none := by
  have hnone : Ipv4.read? ('[' :: rest) = none :=
    Ipv6.readV4?_of_stops (stops_cons.mpr (by decide))
  rw [readV4?, hnone]
  rfl

/-- Every address with a port is read from its text. -/
theorem parse?_render (address : SocketAddress) : parse? address.render = some address := by
  cases address with
  | v4 ip port =>
      have hcolon : Stops (Text.isDigitOf 10) (':' :: digits 10 port.toNat) :=
        stops_cons.mpr (by decide)
      have hread := Ipv4.read?_render ip hcolon
      simp [parse?, render, readV4?, hread, readPort?_digits]
  | v6 ip scope port =>
      have hread := Ipv6.read?_render ip
        (closes_scopeText scope (':' :: digits 10 port.toNat))
      rw [parse?, toList_render_v6, readV4?_bracket]
      simp [readV6?, hread, readScope?_scopeText, readPort?_digits]

end SocketAddress

end Rescan.Net
