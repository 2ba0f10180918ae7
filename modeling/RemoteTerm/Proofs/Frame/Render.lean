import RemoteTerm.Proofs.Frame.Decode
import RemoteTerm.Proofs.Json.Printer
/-!
Frames on the wire: each has a text of its own, which is read as that frame.
-/

namespace RemoteTerm.Frame

open Json Json.Written

-- The text of a string between its quotes.
def escaped (s : String) : String :=
  String.ofList (s.toList.flatMap escape)

-- What is on the wire.
def wire : Frame → String
  | .input data  => String.join ["\x7b\"type\":\"input\",\"data\":\"", escaped data, "\"\x7d"]
  | .resize size =>
    String.join ["\x7b\"type\":\"resize\",\"cols\":", toString size.cols.toNat, ",\"rows\":",
      toString size.rows.toNat, "\x7d"]

structure Faithful (f : Frame) : Prop where
  -- The frame comes back as it was.
  back     : decode f.render = .ok f
  -- No other frame has its text.
  unique   : ∀ g : Frame, g.render = f.render ↔ g = f
  layout   : f.render = f.wire
  -- In a string, quotes, backslashes and control codes are escaped, and all else stands for itself.
  verbatim : ∀ c, escape c = [c] ↔ ' ' ≤ c ∧ c ≠ '"' ∧ c ≠ '\\'
  pieces   : ∀ c, ∃ p : Piece, p.chars = escape c ∧ Quoted.text? [p] = some [c]

variable {f : Frame}

-- The members that a frame is printed as.
def written : Frame → List (Quoted × Written)
  | .input data  =>
    [(.of "type", .string (.of Kind.input.name)), (.of "data", .string (.of data))]
  | .resize size =>
    [(.of "type", .string (.of Kind.resize.name)), (.of "cols", .number (.of size.cols.toNat)),
      (.of "rows", .number (.of size.rows.toNat))]

theorem prints_written : Prints (.object f.written) f.toJson := by
  cases f <;> simp only [written, toJson] <;> apply Prints.object <;>
    simp [Prints.string, Prints.integer]

theorem spaced_render : Spaced (Written.object f.written).tokens f.render.toList := by
  rw [render, Json.render, String.toList_ofList, ← prints_written]
  exact spaced_flatMap [] _ nofun

theorem describes_written : Describes f.written f.kind := by
  constructor
  case depth => cases f <;> simp [written, depth, membersDepth]
  all_goals cases f <;> simp [written, kind, Kind.fields, named, Quoted.string?_of]

theorem carried_written : Carried f.written f := by
  cases f
  case input data =>
    exact .input (q := .of data) (by simp [named, written, Quoted.string?_of]) Quoted.string?_of
  case resize size =>
    refine .resize (c := .of size.cols.toNat) (r := .of size.rows.toNat) ?_ Literal.count?_of ?_
      Literal.count?_of <;> simp [named, written, Quoted.string?_of]

theorem decode_render : decode f.render = .ok f :=
  (describes_written.decode_eq_ok_iff spaced_render).mpr ⟨rfl, carried_written⟩

theorem render_eq_wire : f.render = f.wire := by
  rw [← String.toList_inj, render, Json.render, String.toList_ofList]
  cases f
  case input data =>
    have hq : (input data).toJson.toChars =
        "\x7b\"type\":\"input\",\"data\":".toList ++ quote data ++ ['\x7d'] := rfl
    rw [hq, wire]
    simp only [String.join, List.foldl_cons, List.foldl_nil, String.toList_append, escaped,
      String.toList_ofList, quote]
    simp
  case resize size =>
    have hn : (resize size).toJson.toChars =
        "\x7b\"type\":\"resize\",\"cols\":".toList ++ ((toString (size.cols.toNat : Int)).toList ++
          (",\"rows\":".toList ++ (toString (size.rows.toNat : Int)).toList)) ++ ['\x7d'] := rfl
    rw [hn, wire]
    simp only [String.join, List.foldl_cons, List.foldl_nil, String.toList_append]
    simp [Int.repr]

theorem faithful (f : Frame) : Faithful f where
  back     := decode_render
  unique g := by
    refine ⟨fun h => ?_, fun h => h ▸ rfl⟩
    exact Except.ok.inj (decode_render.symm.trans (h ▸ decode_render))
  layout   := render_eq_wire
  verbatim := fun _ => escape_eq_singleton_iff
  pieces c := ⟨.of c, Piece.chars_of, Quoted.text?_of_cons⟩

example : (input "\x1b\x01").render = "\x7b\"type\":\"input\",\"data\":\"\\u001b\\u0001\"\x7d" := by
  decide +kernel

end RemoteTerm.Frame
