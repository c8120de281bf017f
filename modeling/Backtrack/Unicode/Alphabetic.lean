import Backtrack.Unicode.RangeTable

/-! # Letters and numbers

The characters from which a pattern can form the name of a group. -/

namespace Backtrack.Unicode

/-- Letters, and marks and signs used as letters. -/
def alphabetic : CharSet :=
  decodeRanges "1t q 6 q 1b 1 a 1 4 1 5 n 1 v 1 cq 4 c e 5 7 1 1 1 2e 1 t i 1 2 2 4 1 1 6 1 1 3 1 1 1 k 1
     2b 1 3v 8 4m 1 12 2 1 6 15 13 e 1 1 1 2 1 2 1 1 8 r 4 4 t b 5 1k 1 7 e 2u 1 8 4 8 4 3 a 3 2
     1 g 1c d 2t o x 9 2 4 1 5 o 2 j j p 7 b 5 o 1 7 7 1 8 16 a c 3 7 6 24 1 g 1 3 4 f d j 1 8 2
     2 2 m 1 7 1 1 3 4 3 8 2 2 2 2 1 1 8 1 4 2 1 5 c 2 a 1 4 3 1 6 4 2 2 m 1 7 1 2 1 2 1 2 4 5 4
     2 2 2 4 1 7 4 1 1 h 6 b 3 1 9 1 3 1 m 1 7 1 2 1 5 3 9 1 3 1 2 3 1 f 4 l 4 4 3 1 8 2 2 2 m 1
     7 1 2 1 5 3 8 2 2 2 2 9 2 4 2 1 5 d 1 g 2 1 6 3 3 1 4 3 2 1 1 1 2 3 2 3 3 3 c 4 5 3 3 1 3 3
     1 6 1 14 d 1 3 1 n 1 g 3 8 1 3 1 3 8 2 1 3 1 2 2 4 s 4 1 8 1 3 1 n 1 a 1 5 3 8 1 3 1 3 8 2
     5 3 1 4 d 3 c d 1 3 1 15 2 8 1 3 1 3 1 1 5 4 7 5 m 6 1 3 1 i 3 o 1 9 1 1 2 7 8 6 1 1 1 8 i
     2 d 1m 5 7 6 1 1f 2 1 1 1 5 1 o 1 1 1 j 1 3 2 5 1 1 6 1 e 4 w 1 1r 8 1 10 4 j 4 g 1 10 1v
     1j 1 1 2 5 g 1s a 4 2 12 1 1 5 1 2 17 1 99 1 4 2 7 1 1 1 4 2 15 1 4 2 x 1 4 2 7 1 1 1 4 2 f
     1 1l 1 4 2 1v 11 g g 2e 2 6 3 h8 2 h 1 q 5 23 3 b 7 k b l c k c d 1 3 1 2 c 1g 2 j e 1 4 1
     1v 2h 7 17 5 1y a v 1 c 4 9 n u 2 5 b 18 4 q 1i s 4 1r 2 k 1e 1 n 2 b 3 1d 1g 1 f 1 8 1f 16
     2 4 a 18 1 b e 1j m 3 a 10 2 b 5 17 2 3 15 4 1 6 1 2 3 1 5 5c j y b 7q 2 6 2 12 2 6 2 8 1 1
     1 1 1 1 1 v 2 1h 1 7 1 1 3 3 1 7 3 4 2 6 4 d 5 3 1 7 38 1 d 1 g d 2t 1 4 1 2 a 1 1 3 5 6 1
     1 1 1 1 1 4 1 b 2 4 5 5 4 1 h 15 ml 1g 1ee 6d 6 4 3 2 c 12 1 1 5 1 2 1k 7 1 g n 9 7 1 7 1 7
     1 7 1 7 1 7 1 7 1 7 1 w 1b 1 d1 3 p 9 7 5 2 5 4 2e 6 3 1 2i 1 4 5 17 1 2m h w 1c g e8 534
     1s h3h 1v 1a 2 7h 3 g a 2 k 1b 5 8 3 35 13 9 2 2v 2 2a k l 1 x o 1g c 1w 1 1 18 6 3 1 1 3 a
     x 5 z d t 3 1f 1 c f 1 g g a 5 1 1j 9 e i n 3 1x 1 1 1 1 o 3 2 g 2 4 b 6 2 6 2 6 9 7 1 7 1
     17 1 e 6 3f l 8mc c n 4 1d 6is a6 2 2y 12 7 c 5 5 c 1 d 1 5 1 1 1 2 1 2 1 30 x a3 i 1s 2 1i
     14 c 38 5 1 3r 10 q 6 q b 2h 3 6 2 6 2 6 2 3 z c 1 q 1 j 1 2 1 f 2 e y 3f 1x 1h 7f t 3 1d
     1b w d u 5 17 5 u 2 10 4 8 1 5 16 4e i 10 4 10 4 14 8 1g c b 1 f 1 7 1 2 1 b 1 f 1 7 1 2 3
     1g c 8n 9 m a 8 o 6 1 16 1 9 1x 6 2 1 1 18 1 2 3 1 2 n a n 9 v 1t j 1 2 a m a q 6 q 12 1k 6
     2 1s 4 1 2 5 8 1 3 1 t 16 t 3 t z 8 1 s r 1i a m a j d i 32 21 1j 1f d 1f d 14 y s 3 1 5 n
     6y 16 1 2 3 2 g 6 1e 3 3 t a 1 8 m 16 i 1a l r n 9 1y 17 5 a 1l 9 1 d p n 1f h 4 8 z 3 1 9
     1s 1 4 9 2 a 1 1 1 z i 1 y 2 1 6 4 1q 7 1 1 1 4 1 f 1 a 7 1l n 4 1 8 2 2 2 m 1 7 1 2 1 5 3
     8 2 2 2 2 3 1 6 1 5 7 s a 1 1 2 1 1 12 1 a 1 1 2 1 1 4 1 2 3 1 1 1 18 1u 1 3 1 4 k 3 u 1u 2
     2 1 1 54 1i 2 7 p 6 y 1r 1 1 3 1 1n 1i 2 1 1z r 2 e l 7 55 1l 2v 1s v 8 2 1 2 8 1 2 1 u 1 2
     2 2 2 4 2l 8 2 1a 2 6 1 1 1 2 r 1f 2 a h 20 5 1 i 21 2v 8 2g x v 9 1 19 1 7 1 1 1d u 2 m 1
     e 21 7 1 2 1 18 3 1 1 2 1 3 1 1 2 2 o 6 1 2 1 11 1 2 1 4 1 1 n 18 78 n 9 h 1 15 3 3 33 1 27
     pm 2u 33 h 5g 218 2p f ts h 6 p 32z 5 g7 5a1 1b 1ch ft 7 v h 27 h u i 1c g 4 v l 5 j c0 19
     5v 1s w p 2 p 18 23 4 1l 7 h 1s 2 1 1 c 7 9 5p2 15 w 2p 37 6pp 4 1 7 1 2 1 83 f 1 t 3 2 1 e
     4 8 b0 1s4 2z 5 d 3 9 7 a 4 1 4m9 2d 1 1z 1 2 2 1 2 2 2 4 1 c 1 1 1 7 1 1t 1 4 2 8 1 7 1 s
     1 4 1 5 1 1 3 7 1 9g 2 p 1 p 1 v 1 p 1 v 1 p 1 v 1 p 1 v 1 p 1 8 1f8 v 6 6 5x 7 1 h 2 7 1 2
     1 5 5 1q x 1 34 19 a 7 g 1 8x u i 18 dg s 6c u 2 1 5r v 1 m 8 2 68 7 1 4 1 2 1 f 1 5h 1n 1w
     3 1 3 1 xg 4 1 r 1 2 1 1 2 1 1 a 1 4 1 1 1 1 6 1 4 1 1 1 1 1 1 3 1 2 1 1 2 1 1 1 1 1 1 1 1
     1 1 2 1 1 2 4 1 7 1 4 1 4 1 1 1 a 1 h 5 3 1 5 1 h hg q 6 q 6 q 2uu wyo w 3dq 2 4ge 2 5rl f
     ha 1wi f2 15u 3t7 5 6ju"

/-- Letters and numbers of every kind. -/
def alphanumeric : CharSet :=
  decodeRanges "1c a 7 q 6 q 1b 1 7 2 1 1 3 2 1 3 1 n 1 v 1 cq 4 c e 5 7 1 1 1 2e 1 t i 1 2 2 4 1 1 6 1 1 3
     1 1 1 k 1 2b 1 3v 8 4m 1 12 2 1 6 15 13 e 1 1 1 2 1 2 1 1 8 r 4 4 t b 5 1k 1 h 4 2u 1 8 4 8
     4 g 2 1 g 1c d 2t e 17 9 2 4 1 5 o 2 j j p 7 b 5 o 1 7 7 1 8 16 a c 3 7 6 24 1 g 1 3 4 f 2
     a 1 j 1 8 2 2 2 m 1 7 1 1 3 4 3 8 2 2 2 2 1 1 8 1 4 2 1 5 2 c 2 6 2 1 4 3 1 6 4 2 2 m 1 7 1
     2 1 2 1 2 4 5 4 2 2 2 4 1 7 4 1 1 7 g b 3 1 9 1 3 1 m 1 7 1 2 1 5 3 9 1 3 1 2 3 1 f 4 2 a 9
     4 4 3 1 8 2 2 2 m 1 7 1 2 1 5 3 8 2 2 2 2 9 2 4 2 1 5 2 a 1 7 a 2 1 6 3 3 1 4 3 2 1 1 1 2 3
     2 3 3 3 c 4 5 3 3 1 3 3 1 6 1 e d d d 1 3 1 n 1 g 3 8 1 3 1 3 8 2 1 3 1 2 2 4 2 a 8 7 1 4 1
     8 1 3 1 n 1 a 1 5 3 8 1 3 1 3 8 2 5 3 1 4 2 a 1 3 c d 1 3 1 15 2 8 1 3 1 3 1 1 5 g 2 j 1 6
     1 3 1 i 3 o 1 9 1 1 2 7 8 6 1 1 1 8 6 a 2 2 d 1m 5 7 6 1 2 a 13 2 1 1 1 5 1 o 1 1 1 j 1 3 2
     5 1 1 6 1 2 a 2 4 w 1 v k c 8 1 10 4 j 4 g 1 10 1v 1j 1 1 2 f 6 26 2 12 1 1 5 1 2 17 1 99 1
     4 2 7 1 1 1 4 2 15 1 4 2 x 1 4 2 7 1 1 1 4 2 f 1 1l 1 4 2 1v e k 3 g g 2e 2 6 3 h8 2 h 1 q
     5 23 3 b 7 k b l c k c d 1 3 1 2 c 1g 2 j e 1 4 1 3 a 6 a m a 6 2h 7 17 5 1y a v 1 c 4 9 d
     14 2 5 b 18 4 q 6 b 11 s 4 1r 2 k b a 6 a d 1 n 2 b 3 1d 1g 1 f 1 8 3 a 12 16 2 1m 1 b e 1j
     9 a 3 1d 2 b 5 17 2 3 15 4 1 6 1 2 3 1 5 5c j y b 7q 2 6 2 12 2 6 2 8 1 1 1 1 1 1 1 v 2 1h
     1 7 1 1 3 3 1 7 3 4 2 6 4 d 5 3 1 7 37 2 2 6 5 b 6 d 2t 1 4 1 2 a 1 1 3 5 6 1 1 1 1 1 1 4 1
     b 2 4 5 5 4 1 1 1m k6 1o q 22 hi u vg 6d 6 4 3 2 9 1 2 12 1 1 5 1 2 1k 7 1 g n 9 7 1 7 1 7
     1 7 1 7 1 7 1 7 1 7 1 w 1b 1 d1 3 p 9 7 5 2 5 4 2e 6 3 1 2i 1 4 5 17 1 2m 3 4 a w 1c g w a
     u 8 1 f w a 13 f 8w 534 1s h3h 1v 1a 2 7h 3 s k 1b 5 8 3 35 13 9 2 2v 2 2a k l 1 x 8 6 a 1g
     c 1w 1 1 a a o 6 3 1 1 1a 5 z d t 3 1f 1 c f b 6 v 1 1j 9 e 2 a 6 n 3 1x 1 1 1 1 o 3 2 g 2
     4 b 6 2 6 2 6 9 7 1 7 1 17 1 e 6 3f 5 a 6 8mc c n 4 1d 6is a6 2 2y 12 7 c 5 5 c 1 d 1 5 1 1
     1 2 1 2 1 30 x a3 i 1s 2 1i 14 c 38 5 1 3r j a 7 q 6 q b 2h 3 6 2 6 2 6 2 3 z c 1 q 1 j 1 2
     1 f 2 e y 3f c 19 c 1l h 2 6s t 3 1d g r 4 10 9 u 5 17 5 u 2 10 4 8 1 5 16 4e 2 a 6 10 4 10
     4 14 8 1g c b 1 f 1 7 1 2 1 b 1 f 1 7 1 2 3 1g c 8n 9 m a 8 o 6 1 16 1 9 1x 6 2 1 1 18 1 2
     3 1 2 n 2 v 2 12 8 9 1c j 1 2 5 x 4 q 6 q 12 1k 4 k 2 1e 1 2 5 8 1 3 1 t a 9 n v 1 w w 8 1
     s 6 5 g 1i a m 2 r 5 q n 7 28 21 1j 1f d 1f 7 1a 8 a 6 12 3 1 5 n 62 v 1 16 1 2 3 2 g 6 1e
     3 3 14 8 m b 4 r i 1a s k n 9 1y c u 1 5 a 1l 9 1 d p 7 a 6 1f 3 a 4 4 8 z 3 1 9 1s 1 4 9 d
     1 1 4 k b i 1 y 2 1 6 4 1q 7 1 1 1 4 1 f 1 a 7 1l 7 a 6 4 1 8 2 2 2 m 1 7 1 2 1 5 3 8 2 2 2
     2 3 1 6 1 5 7 s a 1 1 2 1 1 12 1 a 1 1 2 1 1 4 1 2 3 1 1 1 18 1u 1 3 1 4 5 a 5 3 u 1u 2 2 1
     1 8 a 4m 1i 2 7 p 6 y 1r 1 1 3 1 b a 12 1i 2 1 7 a 6 k s r 2 e 5 c 4 7 55 1l 2v 2b c 8 2 1
     2 8 1 2 1 u 1 2 2 2 2 4 d a 1y 8 2 1a 2 6 1 1 1 2 r 1f 2 a h 20 5 1 i 21 2v 8 2g x f a 6 9
     1 19 1 7 1 1 f t 5 u 2 m 1 e 21 7 1 2 1 18 3 1 1 2 1 3 1 1 2 2 8 a 6 6 1 2 1 11 1 2 1 4 1 1
     7 a 6 18 4 a 6u n 9 h 1 15 3 3 f a 2e 1 f l 17 pm 2u 33 h 5g 218 2p f ts h 6 p 32z 5 g7 5a1
     1b 1 a 1c6 ft 7 v 1 a 6 27 1 a 6 u i 1c g 4 c a 1 7 1 l 5 j c0 19 3 a 5i 2f 9 p 2 p 18 23 4
     1l 7 h 1s 2 1 1 c 7 9 5p2 15 w 2p 37 6pp 4 1 7 1 2 1 83 f 1 t 3 2 1 e 4 8 b0 1s4 2z 5 d 3 9
     7 a 4 1 381 a 152 k c k 30 p 3r 2d 1 1z 1 2 2 1 2 2 2 4 1 c 1 1 1 7 1 1t 1 4 2 8 1 7 1 s 1
     4 1 5 1 1 3 7 1 9g 2 p 1 p 1 v 1 p 1 v 1 p 1 v 1 p 1 v 1 p 1 8 2 1e 1ds v 6 6 5x 7 1 h 2 7
     1 2 1 5 5 1q x 1 34 19 a 7 2 a 4 1 8x u i 18 4 a d2 s 4 a 5y u 2 b 5h v 1 m 8 2 68 7 1 4 1
     2 1 f 1 5h 2 9 1c 1w 3 1 3 1 4 a lz 1n 1 3 1 4 24 19 1 f 5e 4 1 r 1 2 1 1 2 1 1 a 1 4 1 1 1
     1 6 1 4 1 1 1 1 1 1 3 1 2 1 1 2 1 1 1 1 1 1 1 1 1 1 2 1 1 2 4 1 7 1 4 1 4 1 1 1 a 1 h 5 3 1
     5 1 h g4 d z q 6 q 6 q 21y a sm wyo w 3dq 2 4ge 2 5rl f ha 1wi f2 15u 3t7 5 6ju"

end Backtrack.Unicode
