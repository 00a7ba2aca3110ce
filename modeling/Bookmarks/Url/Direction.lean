import Bookmarks.Text.Spans

/-!
The direction rule of domain labels: in a name with right-to-left characters, each label runs in one
direction, starts with a letter of it, and mixes digits and signs only as far as that is unambiguous.
-/
set_option autoImplicit false

namespace Bookmarks.Url

open Bookmarks.Text (Spans)

inductive Direction where
  | left
  | right
  | arabicLetter
  | arabicNumber
  | europeanNumber
  | europeanSeparator
  | commonSeparator
  | europeanTerminator
  | neutral
  | boundary
  | mark
  | other
deriving DecidableEq, Repr

def directionClasses : Spans := Spans.ofText
  "0+8=9 0+4=b 0+d=9 0+4=b 0+1=8 0+2=7 0+4=8 0=5 0=6 0=5 0+1=6 0+9=4 0=6 0+5=8 1a+5=8 1a+3=8 0+5=9
   0=b 0+19=9 0=6 0=8 0+3=7 0+3=8 1+1=8 0=9 0+1=8 0+1=7 0+1=4 0=8 1+2=8 0=4 1+4=8 17=8 1f=8
   1c1+1=8 7+d=8 2+d=8 5+8=8 1+10=8 0+6f=a 4+1=8 8=8 5+1=8 1=8 6e=8 8c+6=a 100=8 2+1=8 0=7 0=1
   0+2c=a 0=1 0=a 0=1 0+1=a 0=1 0+1=a 0=1 0=a 0+37=1 0+5=3 0+1=8 0=2 0+1=7 0=2 0=6 0=2 0+1=8 0+a=a
   0+2f=2 0+14=a 0+9=3 0=7 0+1=3 0+2=2 0=a 0+64=2 0+6=a 0=3 0=8 0+5=a 0+1=2 0+1=a 0=8 0+3=a 0+1=2
   0+9=4 0+16=2 0=a 0+1d=2 0+1a=a 0+5a=2 0+a=a 0+e=2 0+2a=1 0+8=a 0+1=1 0+3=8 0+2=1 0=a 0+17=1
   0+3=a 0=1 0+8=a 0=1 0+2=a 0=1 0+4=a 0+2a=1 0+2=a 0+3=1 0+2f=2 0+1=3 0+4=2 0+8=a 0+29=2 0+17=a
   0=3 0+1f=a 37=a 1=a 4+7=a 4=a 3+6=a a+1=a 1d=a 3a=a 4+3=a 8=a 14+1=a e+1=7 7=7 2=a 2+1=a 39=a
   4+1=a 4+1=a 2+2=a 3=a 1e+1=a 3=a b+1=a 39=a 4+4=a 1+1=a 4=a 14+1=a d=7 8+5=a 1=a 3a=a 2=a 1+3=a
   8=a 7+1=a b+1=a 1e=a 3d=a c=a 25+5=8 0=7 0=8 5=a 3=a 37=a 1+2=a 5+2=a 1+3=a 7+1=a b+1=a 14+6=8
   2=a 3a=a f+1=a 14+1=a 1c+1=a 39+1=a 4+3=a 8=a 14+1=a 1d=a 48=a 7+2=a 1=a 5a=a 2+6=a 4=7 7+7=a
   62=a 2+8=a b+6=a 49+1=a 1b=a 1=a 1=a 0+3=8 33+d=a 1+4=a 1+1=a 5+a=a 1+23=a 9=a 66+3=a 1+5=a
   1+1=a 2+1=a 19+1=a 4+2=a 10+3=a d=a 2+1=a 6=a f=a 2bf+2=a 30+9=8 66=8 27f=b 1a+1=8 75+2=a
   1d+1=a 1e+1=a 1e+1=a 40+1=a 1+6=a 8=a 2+a=a 7=7 1=a 12+9=8 6+a=8 0+2=a 0=9 0=a 75+1=a 22=a
   76+2=a 4+1=a 9=a 6+2=a 4=8 3+1=8 98+21=8 17+1=a 2=a 3a=a 1+6=a 1=a 1=a 2+7=a 6+9=a 2=a 30+2d=a
   2+b=a 14+3=a 30=a 1+4=a 1=a 5=a 28+8=a c+1=a 20+3=a 2+1=a 1+2=a 38=a 1+1=a 3=a 1+2=a 3a+7=a
   2+1=a 98+2=a 1+c=a 1+6=a 4=a 6=a 3+1=a c6+3f=a 1bd=8 1+2=8 b+2=8 d+2=8 d+2=8 d+1=8 1+a=b 0+2=9
   1=1 0+17=8 0+6=b 0=6 0+4=7 0+e=8 0=6 0+19=8 0=b 0+5=9 0+3=b 0+5=9 0=4 3+5=4 0+1=5 0+2=8 1+9=4
   0+1=5 0+2=8 11+2f=7 0+20=a f+1=8 1+3=8 1+1=8 a=8 1+2=8 5+5=8 1=8 1=8 1=8 4=7 b+1=8 4+4=8 5+3=8
   2+f=8 29+2=8 4+81=8 0=5 0=7 0+121=8 45+19=8 1+90=8 19+a=8 15+27=8 0+13=4 4e+1c1=8 1+152=8
   100+273=8 2+1f=8 1+68=8 e5+5=8 4+2=a 7+6=8 7f=a 60+1f=a 0+5d=8 22+19=8 1+58=8 c+d5=8 1a+b=8 4=b
   0+3=8 3+18=8 9+3=a 2=8 5+1=8 5+2=8 59+1=a 0+1=8 3=8 5a=8 c4+23=8 39+1=8 31+f=8 1c+2=8 32+e=8
   c+3=8 a7+3=8 63+1=8 1f=8 19c0+3f=8 5690+36=8 146+2=8 5f+3=a 0=8 0+9=a 0+1=8 1e+1=a 50+1=a
   e+21=8 66=8 79=a 3=a 4=a 19+1=a 1+3=8 0=a b+1=7 3a+3=8 4c+1=a 1a+11=a d=a 26+7=a 19+a=a 2e+2=a
   30=a 2+3=a 2+1=a 27=a 43+5=a 2+1=a 2+1=a c=a 8=a 2f=a 33=a 1+2=a 2+1=a 5+1=a 1=a 2a+1=a 8=a
   73+1=8 79=a 2=a 4=a 4f2f=1 0=a 0+9=1 0=5 0+25=1 0+1ed=2 0+11=8 0+7e=2 0=8 0+1f=9 0+c=2 0+2=8
   0+f=a 0+9=8 6+f=a 0+1f=8 0=6 0=8 0=6 1=8 0=6 0+8=8 0=7 0+1=8 0+1=5 0+2=8 1=8 0+1=7 0=8 4+8e=2
   0=9 1+1=8 0+2=7 0+4=8 0=5 0=6 0=5 0+1=6 0+9=4 0=6 0+5=8 1a+5=8 1a+a=8 7a+1=7 0+2=8 0+1=7 1+6=8
   1+8=9 0+4=8 0+1=9 101=8 3e+4c=8 3+c=8 3=8 5c=a e2=a 0+1a=4 7a+4=a 485+11e=1 0=8 0+e0=1 0+2=a
   0=1 0+1=a 0+4=1 0+3=a 0+27=1 0+2=a 0+3=1 0=a 0+a4=1 0+1=a 0+51=1 0+6=8 0+1bf=1 0+23=2 0+3=a
   0+7=2 0+9=3 0+5=2 0+28=1 0+4=a 0+f1=1 0+1e=3 0+2b=1 0+1=a 0+12=1 0+39=2 0+5=a 0+2f=1 0+15=2
   0+a=a 0+1e=2 0+11=1 0+3=a 0+79=1 1=a 36+e=a b+13=8 a=a 2+1=a a+2=a 31+3=a 2+1=a 7=a 3d+2=a
   24+4=a 1+7=a 3e=a c+1=a 34+8=a a+3=a 2=a 5f+2=a 2=a 1+1=a 6=a 2=a 9d=a 3+7=a 15+1=a 39+1=a 3=a
   25+6=a 3+4=a 46+5=a d=a 1=a 1=a e+1=a 55+7=a 2+2=a 1=a 17=a 54+5=a 1=a 4+1=a 1+1=a ee+3=a 6+1=a
   1+1=a 1b+1=a 55+7=a 2=a 1+1=a 1f+c=8 3e=a 1=a 2+5=a 1=a 65+2=a 2+3=a 1+4=a 103+8=a 1+1=a
   100+1=a 1=a 4=a 90+3=a 2+1=a 4=a 20+5=a 2+1=a 28+5=a 2+3=a 8=a 9+5=a 2+2=a 2e+c=a 1+1=a c6=a
   1+2=a 1=a c9+6=a 1+5=a 54+15=a 2+6=a 1+1=a 1+1=a 7a+5=a 3=a 1+1=a 1+6=a 1=a 48+1=a 3=a 1=a
   15b+1=a b+1=a 34+4=a 5=a 1=a 17=a 7a+7=8 0+3=7 0+10=8 144e=a 6+e=a 2cc8+b=a 3+2=a 9c0+4=a
   3b+6=a 418=a 3f+3=a 4f=8 1=a 4cb8+1=a 1+3=9 125c+2d=a 2+16=a 220+2=a 9+7=9 0+7=a 2+6=a 1e+3=a
   3b+1=8 15+41=8 0+2=a 0=8 ba+56=8 384=8 39=8 39=8 39=8 39=8 a+31=4 200+36=a 4+31=a 8=a e=a
   16+4=a 1+e=a 550+6=a 1+10=a 2+6=a 1+1=a 1+4=a 64=a a0+6=a 177=a 3d+3=a f=7 1ec+3=a fe+1=a f3=a
   2=a 7+1=a 5=a 10a+cf=1 0+6=a 0+6c=1 0+6=a 0+324=1 0+4f=2 0+3f=1 0+4f=2 0+af=1 0+ef=2 0+1=8
   0+d=2 0+ff=1 0+2b=8 4+63=8 c+e=8 2+e=8 1+e=8 1+24=8 a+a=4 0+4=8 1f=8 3a+5=8 3d=8 b2+5=8
   9a+3d7=8 4+10=8 3+c=8 3+76=8 4+5e=8 6+b=8 4=8 f+b=8 4+37=8 8+9=8 6+27=8 8+1d=8 2+1=8 4e+153=8
   c+d=8 2+c=8 3+8=8 7+2d=8 1+6=8 8+d=8 4+8=8 7+8=8 7+92=8 1+36=8 25+9=4 404+1=9 fffe+1=9 fffe+1=9
   fffe+1=9 fffe+1=9 fffe+1=9 fffe+1=9 fffe+1=9 fffe+1=9 fffe+1=9 fffe+1=9 fffe+1=9 fffe+101=9
   0+ef=a 0+e0f=9 effe+1=9 fffe+1=9 fffe+1=9"

def direction (c : Char) : Direction :=
  match directionClasses.class? c with
  | none => .left
  | some 1 => .right
  | some 2 => .arabicLetter
  | some 3 => .arabicNumber
  | some 4 => .europeanNumber
  | some 5 => .europeanSeparator
  | some 6 => .commonSeparator
  | some 7 => .europeanTerminator
  | some 8 => .neutral
  | some 9 => .boundary
  | some 10 => .mark
  | some _ => .other

-- The character makes its whole name subject to the direction rule.
def isRightToLeft (c : Char) : Bool :=
  direction c ∈ [.right, .arabicLetter, .arabicNumber]

def directionAgrees (label : List Char) : Bool :=
  let classes := label.map direction
  let ending := classes.reverse.dropWhile (· == .mark)
  match classes, ending with
  | .left :: _, last :: _ =>
    classes.all (· ∈ [.left, .europeanNumber, .europeanSeparator, .commonSeparator,
      .europeanTerminator, .neutral, .boundary, .mark]) &&
    last ∈ [.left, .europeanNumber]
  | first :: _, last :: _ =>
    first ∈ [.right, .arabicLetter] &&
    classes.all (· ∈ [.right, .arabicLetter, .arabicNumber, .europeanNumber, .europeanSeparator,
      .commonSeparator, .europeanTerminator, .neutral, .boundary, .mark]) &&
    last ∈ [.right, .arabicLetter, .europeanNumber, .arabicNumber] &&
    !(classes.contains .europeanNumber && classes.contains .arabicNumber)
  | [], _ => true
  | _, [] => false

end Bookmarks.Url
