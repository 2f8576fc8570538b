import DeskConfig.Build.Resolve

/-!
Files of plain text. A text of one byte for each character is read back from its
bytes as it is, so a file that holds such a text is read as that text.
-/

namespace DeskConfig

open Markup (Element Tag)

namespace Text

def asciiBytes (cs : List Char) : List UInt8 := cs.map fun c => UInt8.ofNat c.toNat

def isAscii (cs : List Char) : Bool := cs.all (·.toNat < 128)

theorem decode_asciiBytes (cs : List Char) (h : isAscii cs = true) :
    decode (asciiBytes cs) = cs := by
  induction cs with
  | nil => simp [decode, asciiBytes, decodeFrom]
  | cons c cs ih =>
    simp only [isAscii, List.all_cons, Bool.and_eq_true, decide_eq_true_eq] at h
    obtain ⟨hc, hcs⟩ := h
    have hbyte : (UInt8.ofNat c.toNat).toNat = c.toNat := by
      rw [UInt8.toNat_ofNat']
      omega
    have hrest := ih hcs
    rw [decode, asciiBytes] at hrest
    rw [decode, asciiBytes, List.map_cons, decodeFrom, decodeFrom.start, hbyte, opening,
      if_pos hc]
    simp only [hrest, Char.ofNat_toNat]

end Text

theorem readText_of_ascii {world : World} {history : List Call} {path text : String}
    (hfile : world.files history path = some (Text.asciiBytes text.toList))
    (htext : Text.isAscii text.toList = true) :
    world.readText history path = .ok text := by
  simp only [World.readText, hfile, Text.decode_asciiBytes _ htext, String.ofList_toList]

/-- A world with one file that never changes, in which no command can be started. -/
def World.holding (path text : String) : World where
  files := fun _ path' => if path' = path then some (Text.asciiBytes text.toList) else none
  environment := { entries := [] }
  run := fun _ _ => none

theorem World.readText_holding {path text : String} (htext : Text.isAscii text.toList = true)
    (history : List Call) : (World.holding path text).readText history path = .ok text :=
  readText_of_ascii (if_pos rfl) htext

theorem resolve_holding {path text : String} {document : List Element}
    (htext : Text.isAscii text.toList = true)
    (hparse : parseSource path text = .ok document) (shell : String) (history : List Call) :
    resolve (World.holding path text) shell history (.file path) =
      (.ok document, [.reading path]) := by
  simp only [resolve, World.readText_holding htext]
  exact Prod.ext hparse rfl

/-- An element without attributes, on the first line of a file. -/
def madeIn (file : String) (tag : Tag) (text : Option String) (children : List Element := []) :
    Element :=
  { tag, text, children, origin := { file, line := 1 } }

end DeskConfig
