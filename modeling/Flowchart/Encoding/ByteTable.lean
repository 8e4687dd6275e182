/-!
# Encodings of single bytes

The encodings in which every byte is a character of its own. All agree on the first 128 bytes; the
tables give the others.
-/

namespace Flowchart.Encoding

/-- An encoding of single bytes: its labels, and the code points of the upper 128 bytes, written in
base 36. Bytes that stand for nothing have the code point of the replacement character. -/
structure ByteTable where
  labels : List String
  code : String

/-- The encodings of single bytes. -/
def byteTables : List ByteTable := [
  ⟨["ansi_x3.4-1968", "ascii", "cp1252", "cp819", "csisolatin1", "ibm819", "iso-8859-1",
     "iso-ir-100", "iso8859-1", "iso88591", "iso_8859-1", "iso_8859-1:1987", "l1", "latin1",
     "us-ascii", "windows-1252", "x-cp1252"],
    "6gc 3l 6ca b6 6ce 6cm 6cg 6ch jq 6cw 9s 6d5 9e 3x al 3z 40 6c8 6c9 6cc 6cd 6ci 6c3 6c4 kc
    6jm 9t 6d6 9f 4d am ag 4g 4h 4i 4j 4k 4l 4m 4n 4o 4p 4q 4r 4s 4t 4u 4v 4w 4x 4y 4z 50 51 52
    53 54 55 56 57 58 59 5a 5b 5c 5d 5e 5f 5g 5h 5i 5j 5k 5l 5m 5n 5o 5p 5q 5r 5s 5t 5u 5v 5w
    5x 5y 5z 60 61 62 63 64 65 66 67 68 69 6a 6b 6c 6d 6e 6f 6g 6h 6i 6j 6k 6l 6m 6n 6o 6p 6q
    6r 6s 6t 6u 6v 6w 6x 6y 6z 70 71 72 73"⟩,
  ⟨["866", "cp866", "csibm866", "ibm866"],
    "sw sx sy sz t0 t1 t2 t3 t4 t5 t6 t7 t8 t9 ta tb tc td te tf tg th ti tj tk tl tm tn to tp
    tq tr ts tt tu tv tw tx ty tz u0 u1 u2 u3 u4 u5 u6 u7 7f5 7f6 7f7 7b6 7c4 7dt 7du 7di 7dh
    7dv 7dd 7dj 7dp 7do 7dn 7bk 7bo 7ck 7cc 7bw 7b4 7cs 7dq 7dr 7dm 7dg 7e1 7dy 7ds 7dc 7e4 7dz
    7e0 7dw 7dx 7dl 7dk 7de 7df 7e3 7e2 7bs 7bg 7ew 7es 7f0 7f4 7eo u8 u9 ua ub uc ud ue uf ug
    uh ui uj uk ul um un sh up sk us sn uv su v2 4w 6qh 53 6qi 6ja 4k 7fk 4g"⟩,
  ⟨["csisolatin6", "iso-8859-10", "iso-ir-157", "iso8859-10", "iso885910", "l6", "latin6"],
    "3k 3l 3m 3n 3o 3p 3q 3r 3s 3t 3u 3v 3w 3x 3y 3z 40 41 42 43 44 45 46 47 48 49 4a 4b 4c 4d
    4e 4f 4g 78 7m 82 8a 88 8m 4n 8r 7k 9s 9y al 4t a2 96 4w 79 7n 83 8b 89 8n 53 8s 7l 9t 9z
    am 6c5 a3 97 74 5d 5e 5f 5g 5h 5i 8e 7g 5l 7s 5n 7q 5p 5q 5r 5s 91 98 5v 5w 5x 5y a0 60 aa
    62 63 64 65 66 67 75 69 6a 6b 6c 6d 6e 8f 7h 6h 7t 6j 7r 6l 6m 6n 6o 92 99 6r 6s 6t 6u a1
    6w ab 6y 6z 70 71 72 8o"⟩,
  ⟨["iso-8859-13", "iso8859-13", "iso885913"],
    "3k 3l 3m 3n 3o 3p 3q 3r 3s 3t 3u 3v 3w 3x 3y 3z 40 41 42 43 44 45 46 47 48 49 4a 4b 4c 4d
    4e 4f 4g 6cd 4i 4j 4k 6ce 4m 4n 60 4p 9i 4r 4s 4t 4u 5i 4w 4x 4y 4z 6cc 51 52 53 6w 55 9j
    57 58 59 5a 6e 78 8e 74 7a 5g 5h 7s 7m 7g 5l ah 7q 82 8m 8a 8r 9s 8z 91 5v 98 5x 5y 5z aa
    8x 9m a2 64 aj al 67 79 8f 75 7b 6c 6d 7t 7n 7h 6h ai 7r 83 8n 8b 8s 9t 90 92 6r 99 6t 6u
    6v ab 8y 9n a3 70 ak am 6c9"⟩,
  ⟨["iso-8859-14", "iso8859-14", "iso885914"],
    "3k 3l 3m 3n 3o 3p 3q 3r 3s 3t 3u 3v 3w 3x 3y 3z 40 41 42 43 44 45 46 47 48 49 4a 4b 4c 4d
    4e 4f 4g 5xe 5xf 4j 7e 7f 5xm 4n 60w 4p 60y 5xn 642 4t 4u ag 5y6 5y7 80 81 5z4 5z5 52 5zq
    60x 5zr 60z 600 643 610 611 601 5c 5d 5e 5f 5g 5h 5i 5j 5k 5l 5m 5n 5o 5p 5q 5r ac 5t 5u 5v
    5w 5x 5y 60a 60 61 62 63 64 65 ae 67 68 69 6a 6b 6c 6d 6e 6f 6g 6h 6i 6j 6k 6l 6m 6n ad 6p
    6q 6r 6s 6t 6u 60b 6w 6x 6y 6z 70 71 af 73"⟩,
  ⟨["csisolatin9", "iso-8859-15", "iso8859-15", "iso885915", "iso_8859-15", "l9"],
    "3k 3l 3m 3n 3o 3p 3q 3r 3s 3t 3u 3v 3w 3x 3y 3z 40 41 42 43 44 45 46 47 48 49 4a 4b 4c 4d
    4e 4f 4g 4h 4i 4j 6gc 4l 9s 4n 9t 4p 4q 4r 4s 4t 4u 4v 4w 4x 4y 4z al 51 52 53 am 55 56 57
    9e 9f ag 5b 5c 5d 5e 5f 5g 5h 5i 5j 5k 5l 5m 5n 5o 5p 5q 5r 5s 5t 5u 5v 5w 5x 5y 5z 60 61
    62 63 64 65 66 67 68 69 6a 6b 6c 6d 6e 6f 6g 6h 6i 6j 6k 6l 6m 6n 6o 6p 6q 6r 6s 6t 6u 6v
    6w 6x 6y 6z 70 71 72 73"⟩,
  ⟨["iso-8859-16"],
    "3k 3l 3m 3n 3o 3p 3q 3r 3s 3t 3u 3v 3w 3x 3y 3z 40 41 42 43 44 45 46 47 48 49 4a 4b 4c 4d
    4e 4f 4g 78 79 8x 6gc 6ce 9s 4n 9t 4p ew 4r ah 4t ai aj 4w 4x 7g 8y al 6cd 52 53 am 7h ex
    57 9e 9f ag ak 5c 5d 5e 76 5g 7a 5i 5j 5k 5l 5m 5n 5o 5p 5q 5r 7k 8z 5u 5v 5w 9c 5y 9m a8
    61 62 63 64 7s ey 67 68 69 6a 77 6c 7b 6e 6f 6g 6h 6i 6j 6k 6l 6m 6n 7l 90 6q 6r 6s 9d 6u
    9n a9 6x 6y 6z 70 7t ez 73"⟩,
  ⟨["csisolatin2", "iso-8859-2", "iso-ir-101", "iso8859-2", "iso88592", "iso_8859-2",
     "iso_8859-2:1987", "l2", "latin2"],
    "3k 3l 3m 3n 3o 3p 3q 3r 3s 3t 3u 3v 3w 3x 3y 3z 40 41 42 43 44 45 46 47 48 49 4a 4b 4c 4d
    4e 4f 4g 78 k8 8x 4k 8t 9m 4n 4o 9s 9q 9w ah 4t al aj 4w 79 kb 8y 50 8u 9n jr 54 9t 9r 9x
    ai kd am ak 9g 5d 5e 76 5g 8p 7a 5j 7g 5l 7s 5n 7u 5p 5q 7i 7k 8z 93 5v 5w 9c 5y 5z 9k a6
    62 a8 64 65 9u 67 9h 69 6a 77 6c 8q 7b 6f 7h 6h 7t 6j 7v 6l 6m 7j 7l 90 94 6r 6s 9d 6u 6v
    9l a7 6y a9 70 71 9v k9"⟩,
  ⟨["csisolatin3", "iso-8859-3", "iso-ir-109", "iso8859-3", "iso88593", "iso_8859-3",
     "iso_8859-3:1988", "l3", "latin3"],
    "3k 3l 3m 3n 3o 3p 3q 3r 3s 3t 3u 3v 3w 3x 3y 3z 40 41 42 43 44 45 46 47 48 49 4a 4b 4c 4d
    4e 4f 4g 86 k8 4j 4k 1ekd 84 4n 4o 8g 9q 7y 8k 4t 1ekd aj 4w 87 4y 4z 50 51 85 53 54 8h 9r
    7z 8l 59 1ekd ak 5c 5d 5e 1ekd 5g 7e 7c 5j 5k 5l 5m 5n 5o 5p 5q 5r 1ekd 5t 5u 5v 5w 80 5y
    5z 7w 61 62 63 64 a4 9o 67 68 69 6a 1ekd 6c 7f 7d 6f 6g 6h 6i 6j 6k 6l 6m 6n 1ekd 6p 6q 6r
    6s 81 6u 6v 7x 6x 6y 6z 70 a5 9p k9"⟩,
  ⟨["csisolatin4", "iso-8859-4", "iso-ir-110", "iso8859-4", "iso88594", "iso_8859-4",
     "iso_8859-4:1988", "l4", "latin4"],
    "3k 3l 3m 3n 3o 3p 3q 3r 3s 3t 3u 3v 3w 3x 3y 3z 40 41 42 43 44 45 46 47 48 49 4a 4b 4c 4d
    4e 4f 4g 78 8o 9i 4k 88 8r 4n 4o 9s 7m 82 9y 4t al 4v 4w 79 kb 9j 50 89 8s jr 54 9t 7n 83
    9z 96 am 97 74 5d 5e 5f 5g 5h 5i 8e 7g 5l 7s 5n 7q 5p 5q 8a 7k 91 98 8m 5w 5x 5y 5z 60 aa
    62 63 64 a0 a2 67 75 69 6a 6b 6c 6d 6e 8f 7h 6h 7t 6j 7r 6l 6m 8b 7l 92 99 8n 6s 6t 6u 6v
    6w ab 6y 6z 70 a1 a3 k9"⟩,
  ⟨["csisolatincyrillic", "cyrillic", "iso-8859-5", "iso-ir-144", "iso8859-5", "iso88595",
     "iso_8859-5", "iso_8859-5:1988"],
    "3k 3l 3m 3n 3o 3p 3q 3r 3s 3t 3u 3v 3w 3x 3y 3z 40 41 42 43 44 45 46 47 48 49 4a 4b 4c 4d
    4e 4f 4g sh si sj sk sl sm sn so sp sq sr ss 4t su sv sw sx sy sz t0 t1 t2 t3 t4 t5 t6 t7
    t8 t9 ta tb tc td te tf tg th ti tj tk tl tm tn to tp tq tr ts tt tu tv tw tx ty tz u0 u1
    u2 u3 u4 u5 u6 u7 u8 u9 ua ub uc ud ue uf ug uh ui uj uk ul um un 6ja up uq ur us ut uu uv
    uw ux uy uz v0 4n v2 v3"⟩,
  ⟨["arabic", "asmo-708", "csiso88596e", "csiso88596i", "csisolatinarabic", "ecma-114",
     "iso-8859-6", "iso-8859-6-e", "iso-8859-6-i", "iso-ir-127", "iso8859-6", "iso88596",
     "iso_8859-6", "iso_8859-6:1987"],
    "3k 3l 3m 3n 3o 3p 3q 3r 3s 3t 3u 3v 3w 3x 3y 3z 40 41 42 43 44 45 46 47 48 49 4a 4b 4c 4d
    4e 4f 4g 1ekd 1ekd 1ekd 4k 1ekd 1ekd 1ekd 1ekd 1ekd 1ekd 1ekd 170 4t 1ekd 1ekd 1ekd 1ekd
    1ekd 1ekd 1ekd 1ekd 1ekd 1ekd 1ekd 1ekd 1ekd 17f 1ekd 1ekd 1ekd 17j 1ekd 17l 17m 17n 17o
    17p 17q 17r 17s 17t 17u 17v 17w 17x 17y 17z 180 181 182 183 184 185 186 187 188 189 18a
    1ekd 1ekd 1ekd 1ekd 1ekd 18g 18h 18i 18j 18k 18l 18m 18n 18o 18p 18q 18r 18s 18t 18u 18v
    18w 18x 18y 1ekd 1ekd 1ekd 1ekd 1ekd 1ekd 1ekd 1ekd 1ekd 1ekd 1ekd 1ekd 1ekd"⟩,
  ⟨["csisolatingreek", "ecma-118", "elot_928", "greek", "greek8", "iso-8859-7", "iso-ir-126",
     "iso8859-7", "iso88597", "iso_8859-7", "iso_8859-7:1987", "sun_eu_greek"],
    "3k 3l 3m 3n 3o 3p 3q 3r 3s 3t 3u 3v 3w 3x 3y 3z 40 41 42 43 44 45 46 47 48 49 4a 4b 4c 4d
    4e 4f 4g 6c8 6c9 4j 6gc 6gf 4m 4n 4o 4p oq 4r 4s 4t 1ekd 6c5 4w 4x 4y 4z p0 p1 p2 53 p4 p5
    p6 57 p8 59 pa pb pc pd pe pf pg ph pi pj pk pl pm pn po pp pq pr ps pt 1ekd pv pw px py pz
    q0 q1 q2 q3 q4 q5 q6 q7 q8 q9 qa qb qc qd qe qf qg qh qi qj qk ql qm qn qo qp qq qr qs qt
    qu qv qw qx qy qz r0 r1 r2 1ekd"⟩,
  ⟨["csiso88598e", "csisolatinhebrew", "hebrew", "iso-8859-8", "iso-8859-8-e", "iso-ir-138",
     "iso8859-8", "iso88598", "iso_8859-8", "iso_8859-8:1988", "visual", "csiso88598i",
     "iso-8859-8-i", "logical"],
    "3k 3l 3m 3n 3o 3p 3q 3r 3s 3t 3u 3v 3w 3x 3y 3z 40 41 42 43 44 45 46 47 48 49 4a 4b 4c 4d
    4e 4f 4g 1ekd 4i 4j 4k 4l 4m 4n 4o 4p 5z 4r 4s 4t 4u 4v 4w 4x 4y 4z 50 51 52 53 54 55 6v 57
    58 59 5a 1ekd 1ekd 1ekd 1ekd 1ekd 1ekd 1ekd 1ekd 1ekd 1ekd 1ekd 1ekd 1ekd 1ekd 1ekd 1ekd
    1ekd 1ekd 1ekd 1ekd 1ekd 1ekd 1ekd 1ekd 1ekd 1ekd 1ekd 1ekd 1ekd 1ekd 1ekd 1ekd 6c7 15c 15d
    15e 15f 15g 15h 15i 15j 15k 15l 15m 15n 15o 15p 15q 15r 15s 15t 15u 15v 15w 15x 15y 15z 160
    161 162 1ekd 1ekd 6by 6bz 1ekd"⟩,
  ⟨["cskoi8r", "koi", "koi8", "koi8-r", "koi8_r"],
    "7b4 7b6 7bg 7bk 7bo 7bs 7bw 7c4 7cc 7ck 7cs 7eo 7es 7ew 7f0 7f4 7f5 7f6 7f7 6xs 7fk 6qh 6qi
    6rs 6sk 6sl 4g 6xt 4w 4y 53 6v 7dc 7dd 7de up 7df 7dg 7dh 7di 7dj 7dk 7dl 7dm 7dn 7do 7dp
    7dq 7dr 7ds 7dt sh 7du 7dv 7dw 7dx 7dy 7dz 7e0 7e1 7e2 7e3 7e4 4p um ts tt ue tw tx uc tv
    ud u0 u1 u2 u3 u4 u5 u6 u7 un u8 u9 ua ub ty tu uk uj tz ug ul uh uf ui tq sw sx ti t0 t1
    tg sz th t4 t5 t6 t7 t8 t9 ta tb tr tc td te tf t2 sy to tn t3 tk tp tl tj tm"⟩,
  ⟨["koi8-ru", "koi8-u"],
    "7b4 7b6 7bg 7bk 7bo 7bs 7bw 7c4 7cc 7ck 7cs 7eo 7es 7ew 7f0 7f4 7f5 7f6 7f7 6xs 7fk 6qh 6qi
    6rs 6sk 6sl 4g 6xt 4w 4y 53 6v 7dc 7dd 7de up us 7dg uu uv 7dj 7dk 7dl 7dm 7dn wh 7dp 7dq
    7dr 7ds 7dt sh sk 7dv sm sn 7dy 7dz 7e0 7e1 7e2 wg 7e4 4p um ts tt ue tw tx uc tv ud u0 u1
    u2 u3 u4 u5 u6 u7 un u8 u9 ua ub ty tu uk uj tz ug ul uh uf ui tq sw sx ti t0 t1 tg sz th
    t4 t5 t6 t7 t8 t9 ta tb tr tc td te tf t2 sy to tn t3 tk tp tl tj tm"⟩,
  ⟨["csmacintosh", "mac", "macintosh", "x-mac-roman"],
    "5g 5h 5j 5l 5t 5y 64 69 68 6a 6c 6b 6d 6f 6h 6g 6i 6j 6l 6k 6m 6n 6p 6r 6q 6s 6u 6t 6y 6x
    6z 70 6cg 4w 4i 4j 4n 6ci 52 67 4u 4p 6jm 50 4o 6sg 5i 60 6qm 4x 6sk 6sl 4l 51 6pu 6q9 6q7
    qo 6qz 4q 56 q1 6e 6w 5b 4h 4s 6qi b6 6rs 6py 4r 57 6cm 4g 5c 5f 5x 9e 9f 6c3 6c4 6cc 6cd
    6c8 6c9 6v 7gq 73 ag 6dg 6gc 6d5 6d6 1dkx 1dky 6ch 53 6ca 6ce 6cw 5e 5m 5d 5n 5k 5p 5q 5r
    5o 5v 5w 1d6n 5u 62 63 61 8h jq kc 4v k8 k9 ka 54 kd kb jr"⟩,
  ⟨["cp1250", "windows-1250", "x-cp1250"],
    "6gc 3l 6ca 3n 6ce 6cm 6cg 6ch 3s 6cw 9s 6d5 9m 9w al ah 40 6c8 6c9 6cc 6cd 6ci 6c3 6c4 48
    6jm 9t 6d6 9n 9x am ai 4g jr k8 8x 4k 78 4m 4n 4o 4p 9q 4r 4s 4t 4u aj 4w 4x kb 8y 50 51 52
    53 54 79 9r 57 8t kd 8u ak 9g 5d 5e 76 5g 8p 7a 5j 7g 5l 7s 5n 7u 5p 5q 7i 7k 8z 93 5v 5w
    9c 5y 5z 9k a6 62 a8 64 65 9u 67 9h 69 6a 77 6c 8q 7b 6f 7h 6h 7t 6j 7v 6l 6m 7j 7l 90 94
    6r 6s 9d 6u 6v 9l a7 6y a9 70 71 9v k9"⟩,
  ⟨["cp1251", "windows-1251", "x-cp1251"],
    "si sj 6ca ur 6ce 6cm 6cg 6ch 6gc 6cw sp 6d5 sq ss sr sv uq 6c8 6c9 6cc 6cd 6ci 6c3 6c4 48
    6jm ux 6d6 uy v0 uz v3 4g su v2 so 4k wg 4m 4n sh 4p sk 4r 4s 4t 4u sn 4w 4x sm uu wh 51 52
    53 up 6ja us 57 uw sl ut uv sw sx sy sz t0 t1 t2 t3 t4 t5 t6 t7 t8 t9 ta tb tc td te tf tg
    th ti tj tk tl tm tn to tp tq tr ts tt tu tv tw tx ty tz u0 u1 u2 u3 u4 u5 u6 u7 u8 u9 ua
    ub uc ud ue uf ug uh ui uj uk ul um un"⟩,
  ⟨["cp1253", "windows-1253", "x-cp1253"],
    "6gc 3l 6ca b6 6ce 6cm 6cg 6ch 3s 6cw 3u 6d5 3w 3x 3y 3z 40 6c8 6c9 6cc 6cd 6ci 6c3 6c4 48
    6jm 4a 6d6 4c 4d 4e 4f 4g p1 p2 4j 4k 4l 4m 4n 4o 4p 4q 4r 4s 4t 4u 6c5 4w 4x 4y 4z p0 51
    52 53 p4 p5 p6 57 p8 59 pa pb pc pd pe pf pg ph pi pj pk pl pm pn po pp pq pr ps pt 1ekd pv
    pw px py pz q0 q1 q2 q3 q4 q5 q6 q7 q8 q9 qa qb qc qd qe qf qg qh qi qj qk ql qm qn qo qp
    qq qr qs qt qu qv qw qx qy qz r0 r1 r2 1ekd"⟩,
  ⟨["cp1254", "csisolatin5", "iso-8859-9", "iso-ir-148", "iso8859-9", "iso88599",
     "iso_8859-9", "iso_8859-9:1989", "l5", "latin5", "windows-1254", "x-cp1254"],
    "6gc 3l 6ca b6 6ce 6cm 6cg 6ch jq 6cw 9s 6d5 9e 3x 3y 3z 40 6c8 6c9 6cc 6cd 6ci 6c3 6c4 kc
    6jm 9t 6d6 9f 4d 4e ag 4g 4h 4i 4j 4k 4l 4m 4n 4o 4p 4q 4r 4s 4t 4u 4v 4w 4x 4y 4z 50 51 52
    53 54 55 56 57 58 59 5a 5b 5c 5d 5e 5f 5g 5h 5i 5j 5k 5l 5m 5n 5o 5p 5q 5r 7y 5t 5u 5v 5w
    5x 5y 5z 60 61 62 63 64 8g 9q 67 68 69 6a 6b 6c 6d 6e 6f 6g 6h 6i 6j 6k 6l 6m 6n 7z 6p 6q
    6r 6s 6t 6u 6v 6w 6x 6y 6z 70 8h 9r 73"⟩,
  ⟨["cp1255", "windows-1255", "x-cp1255"],
    "6gc 3l 6ca b6 6ce 6cm 6cg 6ch jq 6cw 3u 6d5 3w 3x 3y 3z 40 6c8 6c9 6cc 6cd 6ci 6c3 6c4 kc
    6jm 4a 6d6 4c 4d 4e 4f 4g 4h 4i 4j 6ga 4l 4m 4n 4o 4p 5z 4r 4s 4t 4u 4v 4w 4x 4y 4z 50 51
    52 53 54 55 6v 57 58 59 5a 5b 14g 14h 14i 14j 14k 14l 14m 14n 14o 14p 1ekd 14r 14s 14t 14u
    14v 14w 14x 14y 14z 168 169 16a 16b 16c 1ekd 1ekd 1ekd 1ekd 1ekd 1ekd 1ekd 15c 15d 15e 15f
    15g 15h 15i 15j 15k 15l 15m 15n 15o 15p 15q 15r 15s 15t 15u 15v 15w 15x 15y 15z 160 161 162
    1ekd 1ekd 6by 6bz 1ekd"⟩,
  ⟨["cp1256", "windows-1256", "x-cp1256"],
    "6gc 1a6 6ca b6 6ce 6cm 6cg 6ch jq 6cw 1a1 6d5 9e 1ae 1aw 1ag 1bj 6c8 6c9 6cc 6cd 6ci 6c3
    6c4 1bd 6jm 1ap 6d6 9f 6bw 6bx 1bu 4g 170 4i 4j 4k 4l 4m 4n 4o 4p 1by 4r 4s 4t 4u 4v 4w 4x
    4y 4z 50 51 52 53 54 55 17f 57 58 59 5a 17j 1c1 17l 17m 17n 17o 17p 17q 17r 17s 17t 17u 17v
    17w 17x 17y 17z 180 181 182 183 184 185 186 5z 187 188 189 18a 18g 18h 18i 18j 68 18k 6a
    18l 18m 18n 18o 6f 6g 6h 6i 6j 18p 18q 6m 6n 18r 18s 18t 18u 6s 18v 18w 6v 18x 6x 18y 6z 70
    6by 6bz 1ci"⟩,
  ⟨["cp1257", "windows-1257", "x-cp1257"],
    "6gc 3l 6ca 3n 6ce 6cm 6cg 6ch 3s 6cw 3u 6d5 3w 4o jr 54 40 6c8 6c9 6cc 6cd 6ci 6c3 6c4 48
    6jm 4a 6d6 4c 4v kb 4f 4g 1ekd 4i 4j 4k 1ekd 4m 4n 60 4p 9i 4r 4s 4t 4u 5i 4w 4x 4y 4z 50
    51 52 53 6w 55 9j 57 58 59 5a 6e 78 8e 74 7a 5g 5h 7s 7m 7g 5l ah 7q 82 8m 8a 8r 9s 8z 91
    5v 98 5x 5y 5z aa 8x 9m a2 64 aj al 67 79 8f 75 7b 6c 6d 7t 7n 7h 6h ai 7r 83 8n 8b 8s 9t
    90 92 6r 99 6t 6u 6v ab 8y 9n a3 70 ak am k9"⟩,
  ⟨["cp1258", "windows-1258", "x-cp1258"],
    "6gc 3l 6ca b6 6ce 6cm 6cg 6ch jq 6cw 3u 6d5 9e 3x 3y 3z 40 6c8 6c9 6cc 6cd 6ci 6c3 6c4 kc
    6jm 4a 6d6 9f 4d 4e ag 4g 4h 4i 4j 4k 4l 4m 4n 4o 4p 4q 4r 4s 4t 4u 4v 4w 4x 4y 4z 50 51 52
    53 54 55 56 57 58 59 5a 5b 5c 5d 5e 76 5g 5h 5i 5j 5k 5l 5m 5n lc 5p 5q 5r 7k 5t ll 5v 5w
    bk 5y 5z 60 61 62 63 64 bz lf 67 68 69 6a 77 6c 6d 6e 6f 6g 6h 6i 6j ld 6l 6m 6n 7l 6p mb
    6r 6s bl 6u 6v 6w 6x 6y 6z 70 c0 6gb 73"⟩,
  ⟨["dos-874", "iso-8859-11", "iso8859-11", "iso885911", "tis-620", "windows-874"],
    "6gc 3l 3m 3n 3o 6cm 3q 3r 3s 3t 3u 3v 3w 3x 3y 3z 40 6c8 6c9 6cc 6cd 6ci 6c3 6c4 48 49 4a
    4b 4c 4d 4e 4f 4g 2rl 2rm 2rn 2ro 2rp 2rq 2rr 2rs 2rt 2ru 2rv 2rw 2rx 2ry 2rz 2s0 2s1 2s2
    2s3 2s4 2s5 2s6 2s7 2s8 2s9 2sa 2sb 2sc 2sd 2se 2sf 2sg 2sh 2si 2sj 2sk 2sl 2sm 2sn 2so 2sp
    2sq 2sr 2ss 2st 2su 2sv 2sw 2sx 2sy 2sz 2t0 2t1 2t2 2t3 2t4 2t5 2t6 1ekd 1ekd 1ekd 1ekd 2tb
    2tc 2td 2te 2tf 2tg 2th 2ti 2tj 2tk 2tl 2tm 2tn 2to 2tp 2tq 2tr 2ts 2tt 2tu 2tv 2tw 2tx 2ty
    2tz 2u0 2u1 2u2 2u3 1ekd 1ekd 1ekd 1ekd"⟩,
  ⟨["x-mac-cyrillic", "x-mac-ukrainian"],
    "sw sx sy sz t0 t1 t2 t3 t4 t5 t6 t7 t8 t9 ta tb tc td te tf tg th ti tj tk tl tm tn to tp
    tq tr 6cg 4w wg 4j 4n 6ci 52 sm 4u 4p 6jm si uq 6sg sj ur 6qm 4x 6sk 6sl uu 51 wh so sk us
    sn uv sp ux sq uy uw sl 4s 6qi b6 6rs 6py 4r 57 6cm 4g sr uz ss v0 ut 6c3 6c4 6cc 6cd 6c8
    6c9 6v 6ce su v2 sv v3 6ja sh up un ts tt tu tv tw tx ty tz u0 u1 u2 u3 u4 u5 u6 u7 u8 u9
    ua ub uc ud ue uf ug uh ui uj uk ul um 6gc"⟩]

end Flowchart.Encoding
