import Bookmarks.Text.Spans

/-!
Full lower-casing of text. A character may have several lower-case characters, and a capital sigma
becomes a final sigma at the end of a word: after a cased character and not before one, characters
that case mapping ignores being skipped on both sides.
-/
set_option autoImplicit false

namespace Bookmarks.Text

def cased : Spans := Spans.ofText
  "41+19 6+19 2f a 4 5+16 1+1e 1+c2 1+3 4+cf 2+22 7+1 1e+4 60 2a+3 2+1 2+3 1 6 1+2 1 1+13 1+52
   1+8a 8+a5 1+25 9+28 b17+25 1 5 2+2a 1+3 2a0+55 2+5 882+a 5+2a 2+2 40+bf 40+115 2+5 2+25 2+5 2+7
   1 1 1 1+1e 2+34 1+6 1 3+2 1+6 3+3 2+5 4+c 5+2 1+6 74 d 10+c 65 4 2+9 1 3+4 6 1 1 1+3 1+5 4 2+3
   5+4 4 11+1f 3+1 331+33 716+e4 6+3 3+1 c+25 1 5 7912+2d 12+1d 84+65 3+3 1+4c 14+5 1+2 335+2a 1+d
   6+4f 4f40+6 c+4 409+19 6+19 4a5+4f 60+23 4+23 74+a 1+e 1+6 1+1 1+a 1+e 1+6 1+1 1c3 2+2 1+29 1+8
   4c5+32 d+32 5d+15 a+15 b1a+3f 5560+3f 20+18 2+18 652c+54 1+46 1+1 2 2+1 2+3 1+b 1 1+6 1+40 1+3
   2+7 1+6 1+1b 1+3 1+4 1 3+6 1+153 2+18 1+18 1+1e 1+18 1+1e 1+18 1+1e 1+18 1+1e 1+18 1+7 734+9
   1+13 6+5 105+3d 892+43 7ec+19 6+19 6+19"

def caseIgnorable : Spans := Spans.ofText
  "27 6 b 23 1 47 4 1 4 2+1 1f7+bf 4+1 4 9+1 1 fb+6 cf 5 31+2c 1 1+1 1+1 1 2c b+5 a+a 1 23 a+14 10
   65+7 1+9 1+3 21 1 1e+1a 5b+a 3a+a 4 2 18+17 2b+2 2c 7+1 5+8 29+39 37 1 4+7 4 3+6 a+1 d f 3a 4+3
   8 14+1 1a 2+1 39 4+1 4+1 2+2 3 1e+1 3 b+1 39 4+4 1+1 4 14+1 16+5 1 3a 2 1+3 8 7+1 b+1 1e 3d c
   32 3 37 1+2 5+2 1+3 7+1 b+1 1d 3a 2 6 5+1 14+1 1c+1 39+1 4+3 8 14+1 1d 48 7+2 1 5a 2+6 b+8 62
   2+8 9 1+6 49+1 1b 1 1 37+d 1+4 1+1 5+a 1+23 9 66+3 1+5 1+1 2+1 19+1 4+2 10+3 d 2+1 6 f 5e 260+2
   3b2+2 1d+1 1e+1 1e+1 40+1 1+6 8 2+a 3 5 2d+4 33 41+1 22 76+2 4+1 9 6+2 db+1 2 3a 1+6 1 1 2+7
   6+9 2 27 8+2d 2+b 14+3 30 1+4 1 5 28+8 c+1 20+3 2+1 1+2 38 1+1 3 1+2 3a+7 2+1 40+5 52+2 1+c 1+6
   4 6 3+1 32+3e d 22+64 1bd 1+2 b+2 d+2 d+2 d+1 c+4 8+1 a 2 2+4 31+4 1+9 1 d 10+c 33+20 b8b+1
   71+2 7d f 60+1f 2f 1d5 24+3 3+4 5 5d+5 5d+2 6f16 4e2+5 10e 62+3 1+9 1 1c+3 50+1 e+21 4e 17+2
   66+3 3+1 8 3 4 19+1 5 97+1 1a+11 d 26+7 19+a 2e+2 30 2+3 2+1 11 15+1 42+5 2+1 2+1 c 8 23 b 33
   1+2 2+1 5+1 1 1b e+1 5+1 1 64+4 9+2 79 2 4 4f30 93+10 23d+f 3 c+f 22 2 a9 7 6 b 23 1 2f 2d+1 43
   15+2 201 e2 95+4 405+5 1+29 1+8 246+2 1+1 5+3 28+2 4 a5+1 23d+3 26 1a+4 1 13b+1 18 34+5 46+a
   31+3 7b 36+e 29 2+1 a+2 31+3 2+1 2 4 a 32+2 24+4 1+7 3e c+1 34+8 a+3 2 5f+2 2 1+1 6 2 9d 3+7
   15+1 39+1 3 25+6 3+4 46+5 d 1 1 e+1 55+7 2+2 1 17 54+5 1 4+1 1+1 ee+3 6+1 1+1 1b+1 55+7 2 1+1
   6a 1 2+5 1 65 1 2+3 1+4 103+8 1+1 100+1 1 4 90+3 2+1 4 20+9 28+5 2+3 8 9+5 2+2 2e+c 1+1 c6 1+2
   1 c9+6 1+5 1 52+15 2+6 1+1 1+1 7a+5 3 1+1 1+6 1 48+1 3 1 41 119+1 b+1 34+4 5 1 17 14d5+10 6+e
   2cc8+b 3+2 9c0+4 3b+6 9+3 1fc+2 28+1 1e2 3f+10 40+1 1+1 d+1 3ffc+3 1+6 1+1 c9e+1 1+3 125c+2d
   2+16 220+2 9+f 2+6 1e+3 94+2 7bb+36 4+31 8 e 16+4 1+e 550+6 1+10 2+6 1+1 1+4 5+3d 21 a0+d 170
   3d+3 1fb+4 fe+1 f3 2 7+1 5 9 1d0+6 6d+7 aaf+4 c0c01 1e+5f 80+ef"

def lowerCases : Spans := Spans.ofText
  "41=61 0=62 0=63 0=64 0=65 0=66 0=67 0=68 0=69 0=6a 0=6b 0=6c 0=6d 0=6e 0=6f 0=70 0=71 0=72 0=73
   0=74 0=75 0=76 0=77 0=78 0=79 0=7a 65=e0 0=e1 0=e2 0=e3 0=e4 0=e5 0=e6 0=e7 0=e8 0=e9 0=ea 0=eb
   0=ec 0=ed 0=ee 0=ef 0=f0 0=f1 0=f2 0=f3 0=f4 0=f5 0=f6 1=f8 0=f9 0=fa 0=fb 0=fc 0=fd 0=fe
   21=101 1=103 1=105 1=107 1=109 1=10b 1=10d 1=10f 1=111 1=113 1=115 1=117 1=119 1=11b 1=11d
   1=11f 1=121 1=123 1=125 1=127 1=129 1=12b 1=12d 1=12f 1=69.307 1=133 1=135 1=137 2=13a 1=13c
   1=13e 1=140 1=142 1=144 1=146 1=148 2=14b 1=14d 1=14f 1=151 1=153 1=155 1=157 1=159 1=15b 1=15d
   1=15f 1=161 1=163 1=165 1=167 1=169 1=16b 1=16d 1=16f 1=171 1=173 1=175 1=177 1=ff 0=17a 1=17c
   1=17e 3=253 0=183 1=185 1=254 0=188 1=256 0=257 0=18c 2=1dd 0=259 0=25b 0=192 1=260 0=263 1=269
   0=268 0=199 3=26f 0=272 1=275 0=1a1 1=1a3 1=1a5 1=280 0=1a8 1=283 2=1ad 1=288 0=1b0 1=28a 0=28b
   0=1b4 1=1b6 1=292 0=1b9 3=1bd 7=1c6 0=1c6 1=1c9 0=1c9 1=1cc 0=1cc 1=1ce 1=1d0 1=1d2 1=1d4 1=1d6
   1=1d8 1=1da 1=1dc 2=1df 1=1e1 1=1e3 1=1e5 1=1e7 1=1e9 1=1eb 1=1ed 1=1ef 2=1f3 0=1f3 1=1f5 1=195
   0=1bf 0=1f9 1=1fb 1=1fd 1=1ff 1=201 1=203 1=205 1=207 1=209 1=20b 1=20d 1=20f 1=211 1=213 1=215
   1=217 1=219 1=21b 1=21d 1=21f 1=19e 1=223 1=225 1=227 1=229 1=22b 1=22d 1=22f 1=231 1=233
   7=2c65 0=23c 1=19a 0=2c66 2=242 1=180 0=289 0=28c 0=247 1=249 1=24b 1=24d 1=24f 121=371 1=373
   3=377 8=3f3 6=3ac 1=3ad 0=3ae 0=3af 1=3cc 1=3cd 0=3ce 1=3b1 0=3b2 0=3b3 0=3b4 0=3b5 0=3b6 0=3b7
   0=3b8 0=3b9 0=3ba 0=3bb 0=3bc 0=3bd 0=3be 0=3bf 0=3c0 0=3c1 1=3c3 0=3c4 0=3c5 0=3c6 0=3c7 0=3c8
   0=3c9 0=3ca 0=3cb 23=3d7 8=3d9 1=3db 1=3dd 1=3df 1=3e1 1=3e3 1=3e5 1=3e7 1=3e9 1=3eb 1=3ed
   1=3ef 5=3b8 2=3f8 1=3f2 0=3fb 2=37b 0=37c 0=37d 0=450 0=451 0=452 0=453 0=454 0=455 0=456 0=457
   0=458 0=459 0=45a 0=45b 0=45c 0=45d 0=45e 0=45f 0=430 0=431 0=432 0=433 0=434 0=435 0=436 0=437
   0=438 0=439 0=43a 0=43b 0=43c 0=43d 0=43e 0=43f 0=440 0=441 0=442 0=443 0=444 0=445 0=446 0=447
   0=448 0=449 0=44a 0=44b 0=44c 0=44d 0=44e 0=44f 30=461 1=463 1=465 1=467 1=469 1=46b 1=46d
   1=46f 1=471 1=473 1=475 1=477 1=479 1=47b 1=47d 1=47f 1=481 9=48b 1=48d 1=48f 1=491 1=493 1=495
   1=497 1=499 1=49b 1=49d 1=49f 1=4a1 1=4a3 1=4a5 1=4a7 1=4a9 1=4ab 1=4ad 1=4af 1=4b1 1=4b3 1=4b5
   1=4b7 1=4b9 1=4bb 1=4bd 1=4bf 1=4cf 0=4c2 1=4c4 1=4c6 1=4c8 1=4ca 1=4cc 1=4ce 2=4d1 1=4d3 1=4d5
   1=4d7 1=4d9 1=4db 1=4dd 1=4df 1=4e1 1=4e3 1=4e5 1=4e7 1=4e9 1=4eb 1=4ed 1=4ef 1=4f1 1=4f3 1=4f5
   1=4f7 1=4f9 1=4fb 1=4fd 1=4ff 1=501 1=503 1=505 1=507 1=509 1=50b 1=50d 1=50f 1=511 1=513 1=515
   1=517 1=519 1=51b 1=51d 1=51f 1=521 1=523 1=525 1=527 1=529 1=52b 1=52d 1=52f 2=561 0=562 0=563
   0=564 0=565 0=566 0=567 0=568 0=569 0=56a 0=56b 0=56c 0=56d 0=56e 0=56f 0=570 0=571 0=572 0=573
   0=574 0=575 0=576 0=577 0=578 0=579 0=57a 0=57b 0=57c 0=57d 0=57e 0=57f 0=580 0=581 0=582 0=583
   0=584 0=585 0=586 b49=2d00 0=2d01 0=2d02 0=2d03 0=2d04 0=2d05 0=2d06 0=2d07 0=2d08 0=2d09
   0=2d0a 0=2d0b 0=2d0c 0=2d0d 0=2d0e 0=2d0f 0=2d10 0=2d11 0=2d12 0=2d13 0=2d14 0=2d15 0=2d16
   0=2d17 0=2d18 0=2d19 0=2d1a 0=2d1b 0=2d1c 0=2d1d 0=2d1e 0=2d1f 0=2d20 0=2d21 0=2d22 0=2d23
   0=2d24 0=2d25 1=2d27 5=2d2d 2d2=ab70 0=ab71 0=ab72 0=ab73 0=ab74 0=ab75 0=ab76 0=ab77 0=ab78
   0=ab79 0=ab7a 0=ab7b 0=ab7c 0=ab7d 0=ab7e 0=ab7f 0=ab80 0=ab81 0=ab82 0=ab83 0=ab84 0=ab85
   0=ab86 0=ab87 0=ab88 0=ab89 0=ab8a 0=ab8b 0=ab8c 0=ab8d 0=ab8e 0=ab8f 0=ab90 0=ab91 0=ab92
   0=ab93 0=ab94 0=ab95 0=ab96 0=ab97 0=ab98 0=ab99 0=ab9a 0=ab9b 0=ab9c 0=ab9d 0=ab9e 0=ab9f
   0=aba0 0=aba1 0=aba2 0=aba3 0=aba4 0=aba5 0=aba6 0=aba7 0=aba8 0=aba9 0=abaa 0=abab 0=abac
   0=abad 0=abae 0=abaf 0=abb0 0=abb1 0=abb2 0=abb3 0=abb4 0=abb5 0=abb6 0=abb7 0=abb8 0=abb9
   0=abba 0=abbb 0=abbc 0=abbd 0=abbe 0=abbf 0=13f8 0=13f9 0=13fa 0=13fb 0=13fc 0=13fd 893=1c8a
   6=10d0 0=10d1 0=10d2 0=10d3 0=10d4 0=10d5 0=10d6 0=10d7 0=10d8 0=10d9 0=10da 0=10db 0=10dc
   0=10dd 0=10de 0=10df 0=10e0 0=10e1 0=10e2 0=10e3 0=10e4 0=10e5 0=10e6 0=10e7 0=10e8 0=10e9
   0=10ea 0=10eb 0=10ec 0=10ed 0=10ee 0=10ef 0=10f0 0=10f1 0=10f2 0=10f3 0=10f4 0=10f5 0=10f6
   0=10f7 0=10f8 0=10f9 0=10fa 2=10fd 0=10fe 0=10ff 140=1e01 1=1e03 1=1e05 1=1e07 1=1e09 1=1e0b
   1=1e0d 1=1e0f 1=1e11 1=1e13 1=1e15 1=1e17 1=1e19 1=1e1b 1=1e1d 1=1e1f 1=1e21 1=1e23 1=1e25
   1=1e27 1=1e29 1=1e2b 1=1e2d 1=1e2f 1=1e31 1=1e33 1=1e35 1=1e37 1=1e39 1=1e3b 1=1e3d 1=1e3f
   1=1e41 1=1e43 1=1e45 1=1e47 1=1e49 1=1e4b 1=1e4d 1=1e4f 1=1e51 1=1e53 1=1e55 1=1e57 1=1e59
   1=1e5b 1=1e5d 1=1e5f 1=1e61 1=1e63 1=1e65 1=1e67 1=1e69 1=1e6b 1=1e6d 1=1e6f 1=1e71 1=1e73
   1=1e75 1=1e77 1=1e79 1=1e7b 1=1e7d 1=1e7f 1=1e81 1=1e83 1=1e85 1=1e87 1=1e89 1=1e8b 1=1e8d
   1=1e8f 1=1e91 1=1e93 1=1e95 9=df 1=1ea1 1=1ea3 1=1ea5 1=1ea7 1=1ea9 1=1eab 1=1ead 1=1eaf 1=1eb1
   1=1eb3 1=1eb5 1=1eb7 1=1eb9 1=1ebb 1=1ebd 1=1ebf 1=1ec1 1=1ec3 1=1ec5 1=1ec7 1=1ec9 1=1ecb
   1=1ecd 1=1ecf 1=1ed1 1=1ed3 1=1ed5 1=1ed7 1=1ed9 1=1edb 1=1edd 1=1edf 1=1ee1 1=1ee3 1=1ee5
   1=1ee7 1=1ee9 1=1eeb 1=1eed 1=1eef 1=1ef1 1=1ef3 1=1ef5 1=1ef7 1=1ef9 1=1efb 1=1efd 1=1eff
   9=1f00 0=1f01 0=1f02 0=1f03 0=1f04 0=1f05 0=1f06 0=1f07 8=1f10 0=1f11 0=1f12 0=1f13 0=1f14
   0=1f15 a=1f20 0=1f21 0=1f22 0=1f23 0=1f24 0=1f25 0=1f26 0=1f27 8=1f30 0=1f31 0=1f32 0=1f33
   0=1f34 0=1f35 0=1f36 0=1f37 8=1f40 0=1f41 0=1f42 0=1f43 0=1f44 0=1f45 b=1f51 1=1f53 1=1f55
   1=1f57 8=1f60 0=1f61 0=1f62 0=1f63 0=1f64 0=1f65 0=1f66 0=1f67 18=1f80 0=1f81 0=1f82 0=1f83
   0=1f84 0=1f85 0=1f86 0=1f87 8=1f90 0=1f91 0=1f92 0=1f93 0=1f94 0=1f95 0=1f96 0=1f97 8=1fa0
   0=1fa1 0=1fa2 0=1fa3 0=1fa4 0=1fa5 0=1fa6 0=1fa7 8=1fb0 0=1fb1 0=1f70 0=1f71 0=1fb3 b=1f72
   0=1f73 0=1f74 0=1f75 0=1fc3 b=1fd0 0=1fd1 0=1f76 0=1f77 c=1fe0 0=1fe1 0=1f7a 0=1f7b 0=1fe5
   b=1f78 0=1f79 0=1f7c 0=1f7d 0=1ff3 129=3c9 3=6b 0=e5 6=214e 2d=2170 0=2171 0=2172 0=2173 0=2174
   0=2175 0=2176 0=2177 0=2178 0=2179 0=217a 0=217b 0=217c 0=217d 0=217e 0=217f 13=2184 332=24d0
   0=24d1 0=24d2 0=24d3 0=24d4 0=24d5 0=24d6 0=24d7 0=24d8 0=24d9 0=24da 0=24db 0=24dc 0=24dd
   0=24de 0=24df 0=24e0 0=24e1 0=24e2 0=24e3 0=24e4 0=24e5 0=24e6 0=24e7 0=24e8 0=24e9 730=2c30
   0=2c31 0=2c32 0=2c33 0=2c34 0=2c35 0=2c36 0=2c37 0=2c38 0=2c39 0=2c3a 0=2c3b 0=2c3c 0=2c3d
   0=2c3e 0=2c3f 0=2c40 0=2c41 0=2c42 0=2c43 0=2c44 0=2c45 0=2c46 0=2c47 0=2c48 0=2c49 0=2c4a
   0=2c4b 0=2c4c 0=2c4d 0=2c4e 0=2c4f 0=2c50 0=2c51 0=2c52 0=2c53 0=2c54 0=2c55 0=2c56 0=2c57
   0=2c58 0=2c59 0=2c5a 0=2c5b 0=2c5c 0=2c5d 0=2c5e 0=2c5f 30=2c61 1=26b 0=1d7d 0=27d 2=2c68
   1=2c6a 1=2c6c 1=251 0=271 0=250 0=252 1=2c73 2=2c76 8=23f 0=240 0=2c81 1=2c83 1=2c85 1=2c87
   1=2c89 1=2c8b 1=2c8d 1=2c8f 1=2c91 1=2c93 1=2c95 1=2c97 1=2c99 1=2c9b 1=2c9d 1=2c9f 1=2ca1
   1=2ca3 1=2ca5 1=2ca7 1=2ca9 1=2cab 1=2cad 1=2caf 1=2cb1 1=2cb3 1=2cb5 1=2cb7 1=2cb9 1=2cbb
   1=2cbd 1=2cbf 1=2cc1 1=2cc3 1=2cc5 1=2cc7 1=2cc9 1=2ccb 1=2ccd 1=2ccf 1=2cd1 1=2cd3 1=2cd5
   1=2cd7 1=2cd9 1=2cdb 1=2cdd 1=2cdf 1=2ce1 1=2ce3 8=2cec 1=2cee 4=2cf3 794d=a641 1=a643 1=a645
   1=a647 1=a649 1=a64b 1=a64d 1=a64f 1=a651 1=a653 1=a655 1=a657 1=a659 1=a65b 1=a65d 1=a65f
   1=a661 1=a663 1=a665 1=a667 1=a669 1=a66b 1=a66d 13=a681 1=a683 1=a685 1=a687 1=a689 1=a68b
   1=a68d 1=a68f 1=a691 1=a693 1=a695 1=a697 1=a699 1=a69b 87=a723 1=a725 1=a727 1=a729 1=a72b
   1=a72d 1=a72f 3=a733 1=a735 1=a737 1=a739 1=a73b 1=a73d 1=a73f 1=a741 1=a743 1=a745 1=a747
   1=a749 1=a74b 1=a74d 1=a74f 1=a751 1=a753 1=a755 1=a757 1=a759 1=a75b 1=a75d 1=a75f 1=a761
   1=a763 1=a765 1=a767 1=a769 1=a76b 1=a76d 1=a76f a=a77a 1=a77c 1=1d79 0=a77f 1=a781 1=a783
   1=a785 1=a787 4=a78c 1=265 2=a791 1=a793 3=a797 1=a799 1=a79b 1=a79d 1=a79f 1=a7a1 1=a7a3
   1=a7a5 1=a7a7 1=a7a9 1=266 0=25c 0=261 0=26c 0=26a 1=29e 0=287 0=29d 0=ab53 0=a7b5 1=a7b7
   1=a7b9 1=a7bb 1=a7bd 1=a7bf 1=a7c1 1=a7c3 1=a794 0=282 0=1d8e 0=a7c8 1=a7ca 1=264 0=a7cd 1=a7cf
   1=a7d1 1=a7d3 1=a7d5 1=a7d7 1=a7d9 1=a7db 1=19b 18=a7f6 572b=ff41 0=ff42 0=ff43 0=ff44 0=ff45
   0=ff46 0=ff47 0=ff48 0=ff49 0=ff4a 0=ff4b 0=ff4c 0=ff4d 0=ff4e 0=ff4f 0=ff50 0=ff51 0=ff52
   0=ff53 0=ff54 0=ff55 0=ff56 0=ff57 0=ff58 0=ff59 0=ff5a 4c5=10428 0=10429 0=1042a 0=1042b
   0=1042c 0=1042d 0=1042e 0=1042f 0=10430 0=10431 0=10432 0=10433 0=10434 0=10435 0=10436 0=10437
   0=10438 0=10439 0=1043a 0=1043b 0=1043c 0=1043d 0=1043e 0=1043f 0=10440 0=10441 0=10442 0=10443
   0=10444 0=10445 0=10446 0=10447 0=10448 0=10449 0=1044a 0=1044b 0=1044c 0=1044d 0=1044e 0=1044f
   88=104d8 0=104d9 0=104da 0=104db 0=104dc 0=104dd 0=104de 0=104df 0=104e0 0=104e1 0=104e2
   0=104e3 0=104e4 0=104e5 0=104e6 0=104e7 0=104e8 0=104e9 0=104ea 0=104eb 0=104ec 0=104ed 0=104ee
   0=104ef 0=104f0 0=104f1 0=104f2 0=104f3 0=104f4 0=104f5 0=104f6 0=104f7 0=104f8 0=104f9 0=104fa
   0=104fb 9c=10597 0=10598 0=10599 0=1059a 0=1059b 0=1059c 0=1059d 0=1059e 0=1059f 0=105a0
   0=105a1 1=105a3 0=105a4 0=105a5 0=105a6 0=105a7 0=105a8 0=105a9 0=105aa 0=105ab 0=105ac 0=105ad
   0=105ae 0=105af 0=105b0 0=105b1 1=105b3 0=105b4 0=105b5 0=105b6 0=105b7 0=105b8 0=105b9 1=105bb
   0=105bc 6ea=10cc0 0=10cc1 0=10cc2 0=10cc3 0=10cc4 0=10cc5 0=10cc6 0=10cc7 0=10cc8 0=10cc9
   0=10cca 0=10ccb 0=10ccc 0=10ccd 0=10cce 0=10ccf 0=10cd0 0=10cd1 0=10cd2 0=10cd3 0=10cd4 0=10cd5
   0=10cd6 0=10cd7 0=10cd8 0=10cd9 0=10cda 0=10cdb 0=10cdc 0=10cdd 0=10cde 0=10cdf 0=10ce0 0=10ce1
   0=10ce2 0=10ce3 0=10ce4 0=10ce5 0=10ce6 0=10ce7 0=10ce8 0=10ce9 0=10cea 0=10ceb 0=10cec 0=10ced
   0=10cee 0=10cef 0=10cf0 0=10cf1 0=10cf2 9d=10d70 0=10d71 0=10d72 0=10d73 0=10d74 0=10d75
   0=10d76 0=10d77 0=10d78 0=10d79 0=10d7a 0=10d7b 0=10d7c 0=10d7d 0=10d7e 0=10d7f 0=10d80 0=10d81
   0=10d82 0=10d83 0=10d84 0=10d85 b3a=118c0 0=118c1 0=118c2 0=118c3 0=118c4 0=118c5 0=118c6
   0=118c7 0=118c8 0=118c9 0=118ca 0=118cb 0=118cc 0=118cd 0=118ce 0=118cf 0=118d0 0=118d1 0=118d2
   0=118d3 0=118d4 0=118d5 0=118d6 0=118d7 0=118d8 0=118d9 0=118da 0=118db 0=118dc 0=118dd 0=118de
   0=118df 5580=16e60 0=16e61 0=16e62 0=16e63 0=16e64 0=16e65 0=16e66 0=16e67 0=16e68 0=16e69
   0=16e6a 0=16e6b 0=16e6c 0=16e6d 0=16e6e 0=16e6f 0=16e70 0=16e71 0=16e72 0=16e73 0=16e74 0=16e75
   0=16e76 0=16e77 0=16e78 0=16e79 0=16e7a 0=16e7b 0=16e7c 0=16e7d 0=16e7e 0=16e7f 40=16ebb
   0=16ebc 0=16ebd 0=16ebe 0=16ebf 0=16ec0 0=16ec1 0=16ec2 0=16ec3 0=16ec4 0=16ec5 0=16ec6 0=16ec7
   0=16ec8 0=16ec9 0=16eca 0=16ecb 0=16ecc 0=16ecd 0=16ece 0=16ecf 0=16ed0 0=16ed1 0=16ed2 0=16ed3
   7a47=1e922 0=1e923 0=1e924 0=1e925 0=1e926 0=1e927 0=1e928 0=1e929 0=1e92a 0=1e92b 0=1e92c
   0=1e92d 0=1e92e 0=1e92f 0=1e930 0=1e931 0=1e932 0=1e933 0=1e934 0=1e935 0=1e936 0=1e937 0=1e938
   0=1e939 0=1e93a 0=1e93b 0=1e93c 0=1e93d 0=1e93e 0=1e93f 0=1e940 0=1e941 0=1e942 0=1e943"

def lowerChar (c : Char) : List Char :=
  if c.toNat < 0x80 then [c.toLower] else (lowerCases.characters? c).getD [c]

def meetsCased (text : List Char) : Bool :=
  match text.dropWhile caseIgnorable.contains with
  | [] => false
  | c :: _ => cased.contains c

-- Lower-cases what is left of a text, given what came before it, the nearest character first.
def lowerAfter (before : List Char) : List Char → List Char
  | [] => []
  | c :: rest =>
    let lower :=
      if c = 'Σ' then [if meetsCased before && !meetsCased rest then 'ς' else 'σ'] else lowerChar c
    lower ++ lowerAfter (c :: before) rest

def lowerCase (text : String) : String := String.ofList (lowerAfter [] text.toList)

end Bookmarks.Text
