import Backtrack.Unicode.RangeTable

/-! # Grapheme break classes

The character classes on which the rules of extended grapheme clusters rest. -/

namespace Backtrack.Unicode

/-- Controls, apart from carriage return and line feed: a cluster never joins them. -/
def controls : CharSet :=
  decodeRanges "0 a 1 2 1 i 2n x d 1 12m 1 3jl 1 1ks 1 2 2 o 7 1d g 17yn 1 6o c ab8 g qxs 4 43z 8 h405 w 2o
     3k 6o 2s0"

/-- Marks that extend the character before them. -/
def extenders : CharSet :=
  decodeRanges "lc 34 7n 7 7b 19 1 1 1 2 1 2 1 1 20 b 1c l g 1 2t 7 2 6 2 2 1 4 z 1 u r 2j b 1m 9 9 1 o 4 1
     9 1 3 1 5 17 3 1n 9 16 o 1 w 1j 1 1 1 4 8 4 1 3 7 a 2 t 1 1m 1 1 1 2 4 8 1 9 1 a 2 q 1 2 2
     1l 1 4 2 4 2 2 3 3 1 u 2 3 1 b 2 1l 1 4 5 1 2 4 1 k 2 m 6 1 1 1m 1 1 2 1 4 8 1 7 3 a 2 u 1
     1n 1 1 1 c 1 9 1 14 1 3 1 1j 1 1 3 5 3 1 4 7 2 b 2 t 1 1m 1 2 2 1 1 3 3 1 4 7 2 b 2 s 2 1l
     2 1 1 2 4 8 1 9 1 a 2 t 1 20 1 4 1 2 3 1 1 8 1 29 1 2 7 c 8 2q 1 2 9 b 7 21 2 r 1 1 1 1 1
     1j e 1 5 1 2 5 b 1 10 9 1 2u 4 1 6 1 2 2 2 p 2 4 3 g 4 d 1 2 2 6 1 f 1 jj 3 qa 4 s 3 t 2 u
     2 1s 2 1 7 8 1 2 b 9 1 19 3 1 1 39 2 y 1 3a 3 4 2 9 1 6 3 63 2 2 1 1m 1 1 7 1 1 1 1 2 8 6 a
     2 1 1c 1a 2 c k 4 1c a 4 3 12 9 c 2 w 4 2 6 1k 1 1 2 3 1 1 5 1k 8 2 2 48 3 1 d 1 7 4 1 6 1
     3 2 5i 1s ek 1 5f x 2da 3 3x 1 2o w fe 6 2x 2 n9w 4 1 a w 2 28 2 7k 1 3 1 4 1 p 2 5 1 47 2
     q i d 1 12 8 p b 1 1 18 3 1c 1 2 4 2 2 2 1 10 1 1v 6 2 2 2 2 c 1 8 1 1b 1 1f 1 1 3 2 2 5 2
     1 1 16 2 8 1 6m 1 2 1 4 1 fn4 1 kh g g g a6 2 gt 1 6a 1 45 5 1ae 3 1 2 5 4 14 3 4 1 4l 2 fx
     4 1t 5 8t 2 25 6 1y b 1d 4 3f 1 1i f 15 1 2 2 a 3 1d 4 2 2 7 1 1p 3 10 5 1 8 1q 1 c 2 1g 9
     1 1 8 4 2 1 2n 3 2 4 6 1 2 1 4d 1 3 8 l 2 1l 2 1 1 1 1 c 1 9 1 e 7 3 5 1v 1 2 6 1 1 2 1 1 3
     4 3 1 1 e 2 2d 8 2 3 1 1 n 1 29 1 2 6 1 1 2 1 1 2 1 2 6j 1 2 4 6 2 1 2 r 2 2d 8 2 1 1 2 2y
     1 1 1 2 8 2t 1 1 1 2 4 1 5 77 9 1 2 6t 1 a 4 4 1 40 4 2 2 4 1 w a 14 6 2 4 8 1 9 6 2 3 1a d
     1 2 5i 1 1 3 1 1 5l 7 1 6 1 1 2a m 2 7 1 2 1 2 3e 6 3 1 1 2 1 7 1 1 20 2 3 1 1 1 9n 2 b 2
     1g 5 5 3 n 1 44l 1 6 f 8ug c 3 3 1xc 5 1n 7 t4 1 1r 4 29 1 b 2 f57 2 3mp 1a 2 n f2 5 3 6 8
     8 2 7 u 4 44 3 1iz 1j 4 1e 8 1 e 1 m 5 1 f 11s 7 1 h 2 7 1 2 1 5 2s 1 4g 7 af 1 1p 4 e4 4
     72 2 6r 1 2 1 7 2 5 1 d6 7 31 7 240 5 gx7k 2o 3k 6o"

/-- Spacing marks, which stay with the character before them. -/
def spacingMarks : CharSet :=
  decodeRanges "1s3 1 1j 1 2 3 8 4 1 2 1e 2 1n 2 6 2 2 2 1i 1 1m 3 1u 1 1m 3 8 1 1 2 1h 2 1o 1 6 2 2 2 36 1
     1 2 3 3 1 3 1g 3 1p 4 1p 2 1m 1 2 1 1 2 1a 1 e 2 1n 2 5 3 1 3 1h 2 24 2 6 7 j 2 1r 1 3j 1
     3u 2 1r 1 4x 1 9 2 p 2 18 1 1f5 1 7 8 1 2 9m 4 2 3 4 2 1 6 68 2 1m 1 1 1 l 6 41 1 1l 4 1s 1
     u 1 4 2 1r 1 2 3 1 1 1h 8 8 2 4r 1 l 1 rhn 2 2 1 2g 2 1e g 3y 1 1c 1 1c 2 4 2 2 2 33 2 2 2
     o 1 4d 1 2 2 5 1 6l 2 1 2 1 2 1 1 jrn 1 1 1 3j 1 19 3 4 2 37 1 o 2 1n 1 1c 3 9 1 e 1 2l 3 3
     2 4s 3 v 2 1n 1 1 4 2 2 2 2 l 2 2d 2 f 1 1 2 2v 3 8 2 3 1 2z 2 6 1 1 2 1 1 2 1 6m 2 6 4 2 1
     35 3 8 2 1 1 31 1 1 2 32 1 7 1 79 3 9 1 6w 5 1 2 7 1 1 1 3y 3 8 4 4 1 2c 1 t 2 1q 1 5l 1 3
     1 1 1 5j 1 e 1 2y 1 7 1 2 1 5x 5 4 2 1 1 9q 2 c 1 1c 2 8 2 d0q 3 2sk 1j"

/-- Signs that stay with the character after them. -/
def prepends : CharSet :=
  decodeRanges "16o 6 5z 1 1d 1 ao 2 28 1 vf 1 1f8u 1 f 1 6s 2 el 1 12l 1 1 1 8y 6 jg 1 cb 1"

/-- Emoji and other pictographs. -/
def pictographs : CharSet :=
  decodeRanges "4p 1 4 1 68d 1 c 1 60 1 m 1 2i 6 f 2 a7 2 c 1 4m 1 p b 4 3 5j 1 6f 2 a 1 9 1 1m 4 1 5 9 1 2
     1 2 2 2 1 4 1 2 1 1 2 2 1 3 1 3 2 8 3 5 1 1 1 5 c b 2 2 1 1 2 1 1 i 1 2 2 i 6 1 1 1 2 3 2 5
     1 2 2 4 2 b 2 5 2 2 1 5 2 1 1 1 2 k 2 5 6 1 4 2 1 4 1 2 1 2 6 1 1 2 1 1 1 1 1 6 1 3 1 6 1 a
     2 f 1 2 1 4 1 1 1 4 3 1 1 b 2 1c 3 9 1 e 1 e 1 ac 2 cv 3 j 2 1f 1 4 1 yi 1 c 1 gp 1 1 1
     2fze 1 13 4 2s c f 2 f 1 e 2 11 a 34 2 c 2 e 1 2 a j 1k r f a 1 k 1 2 9 1 4 9 n 6 58 2 34 2
     2 1 3 2 2b 2 3 1 4 5 72 1 1r b 6 1 o 7 2 2 8 c 1 2 4 2 1 4 2 d 2 2 1 8 2 9 1 5 3 c 3 8 3 2
     1 1 1 4 1 6 1 3 1 6 2e 1c 1y 5 8 2 h 3 1 1 6 2 d 62 12 c 4 1k 8 a 6 14 8 u 2 c 4 2 e 9 13 c
     1b 1 a 1 55 2g 8 e 42 74 se"

/-- Consonants that a linker can join into a conjunct. -/
def conjunctConsonants : CharSet :=
  decodeRanges "1sl 11 u 8 o 8 l k 1 7 1 1 3 4 y 2 1 1 g 2 4j k 1 7 1 2 1 5 1r 1 r k 1 7 1 2 1 5 y 2 1 1 h
     1 4j k 1 g u 3 56 12 jp 17 k 1 g 6 4 4 3 1 3 2 7 3 4 d c 1 1dd 1g h8 1h 52 2 6 x h 8 1i u d
     2 b 3 s0b 3 3 10 19 5 2 9 a 5 2p g 1 3 6 1 3 2 2o b 5x r ilh 1 f 4 1 3 1 t 1cd 10 t 1 2 1
     fs a 1 1 2 1 1 12 11m 7 2 1 2 8 1 2 1 o 5s 1 a 14 t 1 b 14 w0 d 1 y"

/-- Signs that link consonants into a conjunct. -/
def conjunctLinkers : CharSet :=
  decodeRanges "1u5 1 3j 1 73 1 3j 1 73 1 73 1 kr 1 1i0 1 i5 1 6b 1 2u 1 s2c 1 8l 1 itk 1 1df 1 ik 1 12l 1
     7c 1 29 1 x4 1"

end Backtrack.Unicode
