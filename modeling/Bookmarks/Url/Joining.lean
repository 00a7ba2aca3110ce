import Bookmarks.Text.Spans
import Bookmarks.Text.Normal

/-!
Where a domain label may hold a joiner: after a virama, and a non-joiner also between two characters
whose shapes join across it.
-/
set_option autoImplicit false

namespace Bookmarks.Url

open Bookmarks.Text (Spans combiningClass)

-- How a character joins: 1 on both sides, 2 on the left, 3 on the right, 4 not at all and skipped.
def joiningClasses : Spans := Spans.ofText
  "ad=4 252+6f=4 113+6=4 107+2c=4 1=4 1+1=4 1+1=4 1=4 48+a=4 1=4 3=1 1+3=3 0=1 0=3 0=1 0=3 0+4=1
   0+3=3 0+c=1 1+6=1 0=3 0+1=1 0+14=4 e+1=1 0=4 0+2=3 1+2=3 0+f=1 0+11=3 0+25=1 0=3 0+1=1 0+8=3
   0=1 0=3 0=1 0=3 0+1=1 0+1=3 1=3 0+6=4 2+5=4 2+1=4 1+3=4 0+1=3 a+2=1 2=1 f=4 0=3 0=4 0+2=1 0+4=3
   0+3=1 0=3 0+8=1 0=3 0=1 0=3 0=1 0=3 0+1=1 0=3 0+1a=4 2=3 0+a=1 0+2=3 0+e=1 0+1=3 0+3=1 0=3 0=1
   0+1=3 0+2=1 0+1=3 0+5=1 26+a=4 19+20=1 0+8=4 9=4 18+3=4 1+8=4 1+2=4 1+4=4 12=3 0+4=1 0+1=3 0=1
   0=3 0+9=1 0=3 0=1 0+2=3 0+2=4 4=1 1+3=1 1=3 0=1 0+1=3 5+12=3 3=1 2+4=1 0=3 9+7=4 0+9=1 0+2=3
   1=3 0+1=1 0+1=3 0+5=1 0=3 0+e=1 1+17=4 1+1f=4 37=4 1=4 4+7=4 4=4 3+6=4 a+1=4 1d=4 3a=4 4+3=4
   8=4 14+1=4 1a=4 2+1=4 39=4 4+1=4 4+1=4 2+2=4 3=4 1e+1=4 3=4 b+1=4 39=4 4+4=4 1+1=4 4=4 14+1=4
   16+5=4 1=4 3a=4 2=4 1+3=4 8=4 7+1=4 b+1=4 1e=4 3d=4 c=4 32=4 3=4 37=4 1+2=4 5+2=4 1+3=4 7+1=4
   b+1=4 1d=4 3a=4 2=4 6=4 5+1=4 14+1=4 1c+1=4 39+1=4 4+3=4 8=4 14+1=4 1d=4 48=4 7+2=4 1=4 5a=4
   2+6=4 c+7=4 62=4 2+8=4 b+6=4 49+1=4 1b=4 1=4 1=4 37+d=4 1+4=4 1+1=4 5+a=4 1+23=4 9=4 66+3=4
   1+5=4 1+1=4 2+1=4 19+1=4 4+2=4 10+3=4 d=4 2+1=4 6=4 f=4 2bf+2=4 3b2+2=4 1d+1=4 1e+1=4 1e+1=4
   40+1=4 1+6=4 8=4 2+a=4 9=4 29=1 3+2=4 1=4 10+58=1 c+1=4 0+21=1 0=4 0=1 75+2=4 4+1=4 9=4 6+2=4
   db+1=4 2=4 3a=4 1+6=4 1=4 1=4 2+7=4 6+9=4 2=4 30+1e=4 31+3=4 30=4 1+4=4 1=4 5=4 28+8=4 c+1=4
   20+3=4 2+1=4 1+2=4 38=4 1+1=4 3=4 1+2=4 3a+7=4 2+1=4 98+2=4 1+c=4 1+6=4 4=4 6=4 3+1=4 c6+3f=4
   20b=4 2+1=4 1a+4=4 31+4=4 5+5=4 60+20=4 bfe+2=4 8d=4 60+1f=4 22a+3=4 6b+1=4 75d4+3=4 1+9=4
   20+1=4 50+1=4 110=4 3=4 4=4 19+1=4 5=4 13+31=1 0=2 51+1=4 1a+11=4 d=4 26+7=4 19+a=4 2e+2=4 30=4
   2+3=4 2+1=4 27=4 43+5=4 2+1=4 2+1=4 c=4 8=4 2f=4 33=4 1+2=4 2+1=4 5+1=4 1=4 2a+1=4 8=4 ee=4 2=4
   4=4 4f30=4 2e1+f=4 10+f=4 cf=4 f9+2=4 201=4 e2=4 95+4=4 686+2=4 1+1=4 5+3=4 28+2=4 4=4 80+4=1
   0=3 1=3 1+1=3 2=2 0+4=3 0+3=1 0=2 0+4=1 0=3 0+2=1 0=3 2=3 0+1=4 4+3=1 0=3 90=1 0=3 0=1 0+2=3
   0+2=1 0=3 0+1=1 0=3 0=1 0+1=3 0=1 0=3 17+3=3 0+1=1 151=2 0+20=1 0=3 0=1 0+3=4 183+1=4 50+2=4
   30+2=1 0=3 0+10=1 1+a=4 0+2=1 0=3 1b+3=1 0+1=3 0+b=1 0+3=4 2a=1 1+1=1 0+2=3 1=1 0+1=3 0+1=1 0=3
   0+1=1 1=1 0+1=3 0=1 4=3 0=1 0=2 35=4 36+e=4 29=4 2+1=4 a+2=4 31+3=4 2+1=4 7=4 3d+2=4 24+4=4
   1+7=4 3e=4 c+1=4 34+8=4 a+3=4 2=4 5f+2=4 2=4 1+1=4 6=4 2=4 9d=4 3+7=4 15+1=4 39+1=4 3=4 25+6=4
   3+4=4 c3+7=4 2+2=4 1=4 17=4 54+5=4 1=4 4+1=4 1+1=4 ee+3=4 6+1=4 1+1=4 1b+1=4 55+7=4 2=4 1+1=4
   6a=4 1=4 2+5=4 1=4 65+2=4 2+3=4 1+4=4 103+8=4 1+1=4 100+1=4 1=4 4=4 90+3=4 2+1=4 4=4 20+9=4
   28+5=4 2+3=4 8=4 9+5=4 2+2=4 2e+c=4 1+1=4 196+6=4 1+5=4 1=4 52+15=4 2+6=4 1+1=4 1+1=4 7a+5=4
   3=4 1+1=4 1+6=4 1=4 48+1=4 3=4 1=4 15b+1=4 b+1=4 34+4=4 5=4 1=4 14ed+10=4 6+e=4 369a+4=4 3b+6=4
   418=4 3f+3=4 51=4 4cb8+1=4 1+3=4 125c+2d=4 2+16=4 220+2=4 9+f=4 2+6=4 1e+3=4 94+2=4 7bb+36=4
   4+31=4 8=4 e=4 16+4=4 1+e=4 550+6=4 1+10=4 2+6=4 1+1=4 1+4=4 64=4 a0+6=4 177=4 3d+3=4 1fc+3=4
   3e0+6=4 29+43=1 0+7=4 c16b5=4 1e+5f=4 80+ef=4"

def marks : Spans := Spans.ofText
  "300+6f 113+6 107+2c 1 1+1 1+1 1 48+a 30+14 10 65+6 2+5 2+1 1+3 23 1e+1a 5b+a 3a+8 9 18+3 1+8
   1+2 1+4 2b+2 3b+8 2a+17 1+20 36+2 1+11 1+6 a+1 1d+2 38 1+6 2+1 2+2 9 a+1 1a 2+2 38 1+4 4+1 2+2
   3 1e+1 3 b+2 38 1+7 1+2 1+2 14+1 16+5 1+2 38 1+6 2+1 2+2 7+2 a+1 1e 3b+4 3+2 1+3 9 28+4 37 1+6
   1+2 1+3 7+1 b+1 1d+2 38 1+6 1+2 1+3 7+1 b+1 f c+3 37+1 1+6 1+2 1+3 9 a+1 1d+2 46 4+5 1 1+7 12+1
   3d 2+6 c+7 62 2+8 b+6 49+1 1b 1 1 4+1 31+13 1+1 5+a 1+23 9 64+13 17+3 4+2 1+2 2+6 3+3 d+b 1 a+3
   2bf+2 3b2+3 1c+2 1d+1 1e+1 40+1f 9 2d+2 1 75+1 22 76+b 4+b db+4 39+9 1+1c 2 30+2d 2+b 14+4
   2f+10 26+8 c+2 1e+c 38+d 30+13 98+2 1+14 4 6 2+2 c6+3f 2d0+20 bfe+2 8d 60+1f 22a+5 69+1 75d4+3
   1+9 20+1 50+1 110 3 4 17+4 4 53+1 32+11 1a+11 d 26+7 19+c 2c+3 2f+d 24 43+d c 8+1 2d+2 32 1+2
   2+1 5+1 1 29+4 5+1 ec+7 1+1 4f30 2e1+f 10+f 3cd e2 95+4 686+2 1+1 5+3 28+2 4 a5+1 23d+3 41+4
   13d+1 4d+5 46+a 31+3 7a+2 35+e 29 2+1 a+3 2d+a 7 3d+2 24+d 10+1 2c c+2 30+d 8+3 1+1 5c+b 6 2
   9d+b 15+3 37+1 1+6 2+1 2+2 9 a+1 2+6 3+4 43+8 1 2 1+3 1+4 1 e+1 52+11 17 51+13 eb+6 2+8 1b+1
   52+10 6a+c 65+e 100+e f5+5 1+1 2+3 1 1+1 8d+6 2+6 3 1c+9 28+6 1+3 8 9+a 2e+f c6+7 c7+7 1+7
   52+15 1+d 7a+5 3 1+1 1+6 1 42+4 1+1 1+4 15b+3 9+1 1 30+6 3+4 17 14e5 6+e 2cc8+11 9c0+4 3b+6 418
   1+36 7+3 51 b+1 4cab+1 1261+2d 2+16 21e+4 3+5 8+7 2+6 1e+3 94+2 7bb+36 4+31 8 e 16+4 1+e 550+6
   1+10 2+6 1+1 1+4 64 a0+6 177 3d+3 1fc+3 fe+1 f3 2 7+1 5 1da+6 6d+6 c17b5+ef"

def joins (c : Char) (classes : List Nat) : Bool :=
  match joiningClasses.class? c with
  | none => false
  | some cls => classes.contains cls

def nearestJoins (classes : List Nat) (text : List Char) : Bool :=
  match text.dropWhile (joins · [4]) with
  | [] => false
  | c :: _ => joins c classes

def followsVirama (before : List Char) : Bool :=
  match before with
  | [] => false
  | c :: _ => combiningClass c == 9

-- Every joiner in what is left of a label stands where it may, given what came before it, the
-- nearest character first.
def joinersPlaced (before : List Char) : List Char → Bool
  | [] => true
  | c :: rest =>
    let placed :=
      if c = '\u200c' then
        followsVirama before || (nearestJoins [1, 2] before && nearestJoins [1, 3] rest)
      else if c = '\u200d' then followsVirama before
      else true
    placed && joinersPlaced (c :: before) rest

end Bookmarks.Url
