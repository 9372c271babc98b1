import Almanac.Url.Composition
import Almanac.Url.HostCharacter

/-!
# Joined letters

In some scripts letters join their neighbours, or signs link them. Two characters
that are not seen control this: one asks for letters to be joined, the other one
keeps them apart. In a host name they are allowed only where they make a
difference.
-/

namespace Almanac.Url

/-- How a letter joins: the letter before it, the one behind it, or both. -/
inductive Joining where
  | before
  | behind
  | both
deriving DecidableEq

/-- Runs of letters that join their neighbours. -/
def joiningRuns : List (Nat × Nat × Joining) :=
  [(0x0620, 0x0620, .both), (0x0622, 0x0625, .before), (0x0626, 0x0626, .both),
   (0x0627, 0x0627, .before), (0x0628, 0x0628, .both), (0x0629, 0x0629, .before),
   (0x062A, 0x062E, .both), (0x062F, 0x0632, .before), (0x0633, 0x063F, .both),
   (0x0641, 0x0647, .both), (0x0648, 0x0648, .before), (0x0649, 0x064A, .both),
   (0x066E, 0x066F, .both), (0x0671, 0x0673, .before), (0x0675, 0x0678, .before),
   (0x0679, 0x0687, .both), (0x0688, 0x0699, .before), (0x069A, 0x06BF, .both),
   (0x06C0, 0x06C0, .before), (0x06C1, 0x06C2, .both), (0x06C3, 0x06CB, .before),
   (0x06CC, 0x06CC, .both), (0x06CD, 0x06CD, .before), (0x06CE, 0x06CE, .both),
   (0x06CF, 0x06CF, .before), (0x06D0, 0x06D1, .both), (0x06D2, 0x06D3, .before),
   (0x06D5, 0x06D5, .before), (0x06EE, 0x06EF, .before), (0x06FA, 0x06FC, .both),
   (0x06FF, 0x06FF, .both), (0x0710, 0x0710, .before), (0x0712, 0x0714, .both),
   (0x0715, 0x0719, .before), (0x071A, 0x071D, .both), (0x071E, 0x071E, .before),
   (0x071F, 0x0727, .both), (0x0728, 0x0728, .before), (0x0729, 0x0729, .both),
   (0x072A, 0x072A, .before), (0x072B, 0x072B, .both), (0x072C, 0x072C, .before),
   (0x072D, 0x072E, .both), (0x072F, 0x074D, .before), (0x074E, 0x0758, .both),
   (0x0759, 0x075B, .before), (0x075C, 0x076A, .both), (0x076B, 0x076C, .before),
   (0x076D, 0x0770, .both), (0x0771, 0x0771, .before), (0x0772, 0x0772, .both),
   (0x0773, 0x0774, .before), (0x0775, 0x0777, .both), (0x0778, 0x0779, .before),
   (0x077A, 0x077F, .both), (0x07CA, 0x07EA, .both), (0x0840, 0x0840, .before),
   (0x0841, 0x0845, .both), (0x0846, 0x0847, .before), (0x0848, 0x0848, .both),
   (0x0849, 0x0849, .before), (0x084A, 0x0853, .both), (0x0854, 0x0854, .before),
   (0x0855, 0x0855, .both), (0x0856, 0x0858, .before), (0x0860, 0x0860, .both),
   (0x0862, 0x0865, .both), (0x0867, 0x0867, .before), (0x0868, 0x0868, .both),
   (0x0869, 0x0882, .before), (0x0886, 0x0886, .both), (0x0889, 0x088D, .both),
   (0x088E, 0x088E, .before), (0x088F, 0x08A9, .both), (0x08AA, 0x08AC, .before),
   (0x08AE, 0x08AE, .before), (0x08AF, 0x08B0, .both), (0x08B1, 0x08B2, .before),
   (0x08B3, 0x08B8, .both), (0x08B9, 0x08B9, .before), (0x08BA, 0x08C8, .both),
   (0x1807, 0x1807, .both), (0x1820, 0x1878, .both), (0x1887, 0x18AA, .both),
   (0xA840, 0xA871, .both), (0xA872, 0xA872, .behind), (0xFB50, 0xFB51, .before),
   (0xFB52, 0xFB81, .both), (0xFB82, 0xFB8D, .before), (0xFB8E, 0xFBA3, .both),
   (0xFBA4, 0xFBA5, .before), (0xFBA6, 0xFBAD, .both), (0xFBAE, 0xFBB1, .before),
   (0xFBD3, 0xFBD6, .both), (0xFBD7, 0xFBE3, .before), (0xFBE4, 0xFBE9, .both),
   (0xFBEA, 0xFBF5, .before), (0xFBF6, 0xFC36, .both), (0xFC37, 0xFC37, .before),
   (0xFC38, 0xFC5A, .both), (0xFC5B, 0xFC5C, .before), (0xFC5D, 0xFC5D, .both),
   (0xFC64, 0xFC65, .before), (0xFC66, 0xFC69, .both), (0xFC6A, 0xFC6B, .before),
   (0xFC6C, 0xFC6F, .both), (0xFC70, 0xFC71, .before), (0xFC72, 0xFC75, .both),
   (0xFC76, 0xFC77, .before), (0xFC78, 0xFC7F, .both), (0xFC80, 0xFC80, .before),
   (0xFC81, 0xFC87, .both), (0xFC88, 0xFC88, .before), (0xFC89, 0xFC89, .both),
   (0xFC8A, 0xFC8B, .before), (0xFC8C, 0xFC90, .both), (0xFC91, 0xFC92, .before),
   (0xFC93, 0xFCF1, .both), (0xFCF5, 0xFD0C, .both), (0xFD0D, 0xFD10, .before),
   (0xFD11, 0xFD28, .both), (0xFD29, 0xFD2C, .before), (0xFD2D, 0xFD3B, .both),
   (0xFD3C, 0xFD3D, .before), (0xFD50, 0xFD8F, .both), (0xFD92, 0xFDC7, .both),
   (0xFDF0, 0xFDF1, .before), (0xFDF2, 0xFDF2, .both), (0xFDF3, 0xFDF4, .before),
   (0xFDF5, 0xFDFC, .both), (0xFE81, 0xFE88, .before), (0xFE89, 0xFE8C, .both),
   (0xFE8D, 0xFE8E, .before), (0xFE8F, 0xFE92, .both), (0xFE93, 0xFE94, .before),
   (0xFE95, 0xFEA8, .both), (0xFEA9, 0xFEB0, .before), (0xFEB1, 0xFEEC, .both),
   (0xFEED, 0xFEEE, .before), (0xFEEF, 0xFEF4, .both), (0xFEF5, 0xFEFC, .before),
   (0x10AC0, 0x10AC4, .both), (0x10AC5, 0x10AC5, .before), (0x10AC7, 0x10AC7, .before),
   (0x10AC9, 0x10ACA, .before), (0x10ACD, 0x10ACD, .behind), (0x10ACE, 0x10AD2, .before),
   (0x10AD3, 0x10AD6, .both), (0x10AD7, 0x10AD7, .behind), (0x10AD8, 0x10ADC, .both),
   (0x10ADD, 0x10ADD, .before), (0x10ADE, 0x10AE0, .both), (0x10AE1, 0x10AE1, .before),
   (0x10AE4, 0x10AE4, .before), (0x10AEB, 0x10AEE, .both), (0x10AEF, 0x10AEF, .before),
   (0x10B80, 0x10B80, .both), (0x10B81, 0x10B81, .before), (0x10B82, 0x10B82, .both),
   (0x10B83, 0x10B85, .before), (0x10B86, 0x10B88, .both), (0x10B89, 0x10B89, .before),
   (0x10B8A, 0x10B8B, .both), (0x10B8C, 0x10B8C, .before), (0x10B8D, 0x10B8D, .both),
   (0x10B8E, 0x10B8F, .before), (0x10B90, 0x10B90, .both), (0x10B91, 0x10B91, .before),
   (0x10BA9, 0x10BAC, .before), (0x10BAD, 0x10BAE, .both), (0x10D00, 0x10D00, .behind),
   (0x10D01, 0x10D21, .both), (0x10D22, 0x10D22, .before), (0x10D23, 0x10D23, .both),
   (0x10EC2, 0x10EC2, .before), (0x10EC3, 0x10EC4, .both), (0x10EC6, 0x10EC7, .both),
   (0x10F30, 0x10F32, .both), (0x10F33, 0x10F33, .before), (0x10F34, 0x10F44, .both),
   (0x10F51, 0x10F53, .both), (0x10F54, 0x10F54, .before), (0x10F70, 0x10F73, .both),
   (0x10F74, 0x10F75, .before), (0x10F76, 0x10F81, .both), (0x10FB0, 0x10FB0, .both),
   (0x10FB2, 0x10FB3, .both), (0x10FB4, 0x10FB6, .before), (0x10FB8, 0x10FB8, .both),
   (0x10FB9, 0x10FBA, .before), (0x10FBB, 0x10FBC, .both), (0x10FBD, 0x10FBD, .before),
   (0x10FBE, 0x10FBF, .both), (0x10FC1, 0x10FC1, .both), (0x10FC2, 0x10FC3, .before),
   (0x10FC4, 0x10FC4, .both), (0x10FC9, 0x10FC9, .before), (0x10FCA, 0x10FCA, .both),
   (0x10FCB, 0x10FCB, .behind), (0x1E900, 0x1E943, .both), (0x1EE00, 0x1EE00, .before),
   (0x1EE01, 0x1EE02, .both), (0x1EE03, 0x1EE06, .before), (0x1EE07, 0x1EE12, .both),
   (0x1EE13, 0x1EE13, .before), (0x1EE14, 0x1EE17, .both), (0x1EE18, 0x1EE18, .before),
   (0x1EE19, 0x1EE7E, .both), (0x1EE80, 0x1EE80, .before), (0x1EE81, 0x1EE82, .both),
   (0x1EE83, 0x1EE83, .before), (0x1EE84, 0x1EE84, .both), (0x1EE85, 0x1EE86, .before),
   (0x1EE87, 0x1EE92, .both), (0x1EE93, 0x1EE93, .before), (0x1EE94, 0x1EE97, .both),
   (0x1EE98, 0x1EE98, .before), (0x1EE99, 0x1EEA2, .both), (0x1EEA3, 0x1EEA6, .before),
   (0x1EEA7, 0x1EEB2, .both), (0x1EEB3, 0x1EEB3, .before), (0x1EEB4, 0x1EEB7, .both),
   (0x1EEB8, 0x1EEB8, .before), (0x1EEB9, 0x1EEBB, .both)]

/-- How a letter joins its neighbours, if it does. -/
def joining? (c : Char) : Option Joining :=
  (joiningRuns.find? fun r => r.1 ≤ c.toNat && c.toNat ≤ r.2.1).map fun r => r.2.2

/-- A sign that links the letters around it. -/
def isLinking (c : Char) : Bool := combiningClass c == 9

/-- The nearest character that is no mark satisfies `p`. -/
def nearest (p : Char → Bool) (s : List Char) : Bool :=
  match s.dropWhile isNonspacing with
  | [] => false
  | c :: _ => p c

/-- A letter that joins the one behind it. -/
def joinsBehind (c : Char) : Bool := joining? c == some .behind || joining? c == some .both

/-- A letter that joins the one before it. -/
def joinsBefore (c : Char) : Bool := joining? c == some .before || joining? c == some .both

/-- The joiners of the rest of a label fit, which stands behind `before` (last character first).
Either one may stand behind a sign that links letters; the one that keeps letters apart also between
two letters that would join. -/
def joinersFitAfter (before : List Char) : List Char → Bool
  | [] => true
  | c :: s =>
    (if c.toNat == 0x200C || c.toNat == 0x200D then
      (match before with
        | [] => false
        | b :: _ => isLinking b) ||
        (c.toNat == 0x200C && nearest joinsBehind before && nearest joinsBefore s)
    else true) && joinersFitAfter (c :: before) s

/-- The joiners of a label fit. -/
def joinersFit (s : List Char) : Bool := joinersFitAfter [] s

end Almanac.Url
