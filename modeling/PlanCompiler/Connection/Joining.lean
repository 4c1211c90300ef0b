/-
# Connection.Joining -- where a name may have a joiner

A joiner has no glyph: it says whether the letters around it are written joined.
A name has one only where it makes a difference: after a sign that leaves a
consonant without its vowel, or, for the one that parts letters, between two
letters that would join across the marks on them.

The joining types are those of Unicode 17.0.  A range may hold code points that no
name has, and a character that is written differently joins as what is written.
-/
import PlanCompiler.Connection.Spelling
import PlanCompiler.Text.CombiningClass
import PlanCompiler.Text.Mark

namespace PlanCompiler.Joining

set_option autoImplicit false

/-- The letters that join what follows. -/
def joiningNext : Text.Ranges := [
  (0x620, 0x620), (0x626, 0x626), (0x628, 0x628), (0x62a, 0x62e), (0x633, 0x63f), (0x641, 0x647),
  (0x649, 0x64a), (0x66e, 0x66f), (0x679, 0x687), (0x69a, 0x6bf), (0x6c1, 0x6c2), (0x6cc, 0x6cc),
  (0x6ce, 0x6ce), (0x6d0, 0x6d1), (0x6fa, 0x6fc), (0x6ff, 0x6ff), (0x712, 0x714), (0x71a, 0x71d),
  (0x71f, 0x727), (0x729, 0x729), (0x72b, 0x72b), (0x72d, 0x72e), (0x74e, 0x758), (0x75c, 0x76a),
  (0x76d, 0x770), (0x772, 0x772), (0x775, 0x777), (0x77a, 0x77f), (0x7ca, 0x7ea), (0x841, 0x845),
  (0x848, 0x848), (0x84a, 0x853), (0x855, 0x855), (0x860, 0x860), (0x862, 0x865), (0x868, 0x868),
  (0x886, 0x886), (0x889, 0x88d), (0x88f, 0x8a9), (0x8af, 0x8b0), (0x8b3, 0x8b8), (0x8ba, 0x8c8),
  (0x1807, 0x1807), (0x1820, 0x1878), (0x1887, 0x18aa), (0xa840, 0xa872), (0xfb52, 0xfb81),
  (0xfb8e, 0xfba3), (0xfba6, 0xfbad), (0xfbd3, 0xfbd6), (0xfbe4, 0xfbe9), (0xfbf6, 0xfc36),
  (0xfc38, 0xfc5a), (0xfc5d, 0xfc5d), (0xfc66, 0xfc69), (0xfc6c, 0xfc6f), (0xfc72, 0xfc75),
  (0xfc78, 0xfc7f), (0xfc81, 0xfc87), (0xfc89, 0xfc89), (0xfc8c, 0xfc90), (0xfc93, 0xfcf1),
  (0xfcf5, 0xfd0c), (0xfd11, 0xfd28), (0xfd2d, 0xfd3b), (0xfd50, 0xfd8f), (0xfd92, 0xfdc7),
  (0xfdf2, 0xfdf2), (0xfdf5, 0xfdfc), (0xfe89, 0xfe8c), (0xfe8f, 0xfe92), (0xfe95, 0xfea8),
  (0xfeb1, 0xfeec), (0xfeef, 0xfef4), (0x10ac0, 0x10ac4), (0x10acd, 0x10acd), (0x10ad3, 0x10adc),
  (0x10ade, 0x10ae0), (0x10aeb, 0x10aee), (0x10b80, 0x10b80), (0x10b82, 0x10b82),
  (0x10b86, 0x10b88), (0x10b8a, 0x10b8b), (0x10b8d, 0x10b8d), (0x10b90, 0x10b90),
  (0x10bad, 0x10bae), (0x10d00, 0x10d21), (0x10d23, 0x10d23), (0x10ec3, 0x10ec4),
  (0x10ec6, 0x10ec7), (0x10f30, 0x10f32), (0x10f34, 0x10f44), (0x10f51, 0x10f53),
  (0x10f70, 0x10f73), (0x10f76, 0x10f81), (0x10fb0, 0x10fb0), (0x10fb2, 0x10fb3),
  (0x10fb8, 0x10fb8), (0x10fbb, 0x10fbc), (0x10fbe, 0x10fbf), (0x10fc1, 0x10fc1),
  (0x10fc4, 0x10fc4), (0x10fca, 0x10fcb), (0x1e900, 0x1e943), (0x1ee01, 0x1ee02),
  (0x1ee07, 0x1ee12), (0x1ee14, 0x1ee17), (0x1ee19, 0x1ee7e), (0x1ee81, 0x1ee82),
  (0x1ee84, 0x1ee84), (0x1ee87, 0x1ee92), (0x1ee94, 0x1ee97), (0x1ee99, 0x1eea2),
  (0x1eea7, 0x1eeb2), (0x1eeb4, 0x1eeb7), (0x1eeb9, 0x1eebb)]

/-- The letters that join what is before them. -/
def joiningPrevious : Text.Ranges := [
  (0x620, 0x620), (0x622, 0x63f), (0x641, 0x64a), (0x66e, 0x673), (0x675, 0x6d3), (0x6d5, 0x6d5),
  (0x6ee, 0x6ef), (0x6fa, 0x6fc), (0x6ff, 0x6ff), (0x710, 0x77f), (0x7ca, 0x7ea), (0x840, 0x858),
  (0x860, 0x860), (0x862, 0x865), (0x867, 0x882), (0x886, 0x886), (0x889, 0x8ac), (0x8ae, 0x8c8),
  (0x1807, 0x1807), (0x1820, 0x1878), (0x1887, 0x18aa), (0xa840, 0xa871), (0xfb50, 0xfbb1),
  (0xfbd3, 0xfcf1), (0xfcf5, 0xfd3d), (0xfd50, 0xfd8f), (0xfd92, 0xfdc7), (0xfdf0, 0xfdfc),
  (0xfe81, 0xfefc), (0x10ac0, 0x10ac5), (0x10ac7, 0x10ac7), (0x10ac9, 0x10aca),
  (0x10ace, 0x10ad6), (0x10ad8, 0x10ae1), (0x10ae4, 0x10aef), (0x10b80, 0x10b91),
  (0x10ba9, 0x10bae), (0x10d01, 0x10d23), (0x10ec2, 0x10ec4), (0x10ec6, 0x10ec7),
  (0x10f30, 0x10f44), (0x10f51, 0x10f54), (0x10f70, 0x10f81), (0x10fb0, 0x10fb0),
  (0x10fb2, 0x10fb6), (0x10fb8, 0x10fbf), (0x10fc1, 0x10fc4), (0x10fc9, 0x10fca),
  (0x1e900, 0x1e943), (0x1ee00, 0x1eebb)]

/-- The one letter that letters join across. -/
def passed : Text.Ranges := [
  (0x1e94b, 0x1e94b)]

def joinsNext (c : Char) : Bool :=
  joiningNext.contains c.toNat

def joinsPrevious (c : Char) : Bool :=
  joiningPrevious.contains c.toNat

/-- Whether the first letter of a text joins, passing over marks. -/
def meets (joins : Char → Bool) (text : List Char) : Bool :=
  match text.dropWhile fun c => Text.isNonspacingMark c || passed.contains c.toNat with
  | c :: _ => joins c
  | [] => false

/-- Whether a joiner may stand between two texts, the one before it given last character first. -/
def fitsBetween (joiner : Char) (before after : List Char) : Bool :=
  match before with
  | [] => false
  | c :: _ =>
    Text.combiningClass c == Text.viramaClass
      || (joiner == '\u200c' && meets joinsNext before && meets joinsPrevious after)

/-- Whether all joiners may stand where they do, `before` being what has been passed. -/
def fits (before : List Char) : List Char → Bool
  | [] => true
  | c :: rest =>
    (!Spelling.isJoiner c || fitsBetween c before rest) && fits (c :: before) rest

end PlanCompiler.Joining
