import KeyClient.Text.CodeTable

/-!
# Tables of the word order

The places of characters in the order of words, the weights of marks, and the characters that
count as forms of others.  Numbers beyond the last character stand for marks.
-/

namespace KeyClient.Text.Collation

open KeyClient.Text

/-- The places of characters: signs, digits, then the letters of one script after another. -/
def places : CodeTable := .ofText
  "9-d>1 20=9 21=64 22=d8 23=167 24=1862 25=168 26=164 27=d1 28-29>e3 2a=15c 2b=390 2c=22 2d=d
2e=78 2f=161 30-39>1890 3a=3d 3b=37 3c-3e>394 3f=69 40=15b 5b=e5 5c=162 5d=e6 5e=1fd 5f=b 60=1fa
61=189a 62=18a8 63=18b3 64=18bc 65=18c9 66=18e0 67=18e9 68=18f5 69=1901 6a=190d 6b=1914 6c=191d
6d=1932 6e=193b 6f=194a 70=1967 71=1973 72=197a 73=1998 74=19a8 75=19b3 76=19cb 77=19d4 78=19d9
79=19e2 7a=19e9 7b=e7 7c=398 7d=e8 7e=39a 85=6 a1=65 a2=1861 a3=1863 a4=1860 a5=1864 a6=399
a7=155 a8=201 a9=2fc ab=e1 ac=397 ae=2fe af=1fe b0=270 b1=391 b4=1fb b6=157 b7=8a b8=204 bb=e2
bf=6a d7=393 f7=392 fe=19fa 131=1902 138=1979 14b=1948 167=19aa 180=18aa 183=18b1 185=1a0c
188=18b8 18c=18c5 192=18e6 195=18f7 199=1917 19a=1922 19b=1930 19e=1941 1a3=18f4 1a5=196d
1a8=1a0a 1aa=19a4 1ab=19ad 1ad=19ae 1b4=19e5 1b6=19eb 1b9=19f6 1ba=19f8 1bb=1a06 1bd=1a0b
1bf=19fd 1c0-1c3>1a1f 1dd=18d1 1e5=18ed 21d=19e8 221=18c6 223=1965 225=19ee 234=192c 235=1945
236=19b0 237=190e 23c=18b5 23f=199e 240=19f1 242=1a0e 247=18cd 249=1910 24b=1978 24d=1980
24f=19e4 250-251>18a2 252=18a6 253=18b0 254=1957 255=18b9 256-257>18c2 258=18d7 259=18d3
25a=18d8 25b=18d5 25c=18d9 25d-25e>18dc 25f=1912 260=18ef 261=18ea 262=18ec 263=18f3 264=18df
265=19c2 266=18f9 267=18fe 268=1907 269=190b 26a=1903 26b=1924 26c=1927 26d=192a 26e=192e
26f=19c5 270=19c8 271=1936 272=1940 273=1944 274=193c 275=1961 276=194e 277=1963 278=1971
279=1982 27a=1984 27b=1986 27c-27d>1988 27e=198b 27f=198d 280=197c 281=1993 282=199d 283=19a1
284=1913 285=19a5 286=19a7 287=19b2 288=19af 289=19bb 28a=19c9 28b=19cf 28c=19d3 28d=19d8
28e=1931 28f=19e3 290-291>19ef 292=19f4 293=19f9 294=1a0d 295=1a16 296=1a1e 297-298>1a23
299=18a9 29a=18de 29b=18f0 29c=18f6 29d=1911 29e=191c 29f=191e 2a0=1977 2a1-2a2>1a1c
2ac-2ad>1a25 2ae-2af>19c3 2b9=20b 2ba=20d 2bb=18ff 2bc=1a10 2bd=1900 2be=1a12 2bf=1a17 2c0=1a0f
2c1=1a18 2c2-2cf>20e 2d0-2d1>184b 2d2-2d5>21c 2d6-2d7>222 2d8-2d9>1ff 2da=202 2db=205 2dc=1fc
2dd=203 2de-2df>224 2e5-2ed>226 2ee=1a11 2ef-2ff>22f 371=1a31 373=1a52 375=20c 377=1a2e 37b=1a47
37c=1a46 37d=1a48 384=1fb 3b1-3b3>1a27 3b4-3b5>1a2b 3b6=1a30 3b7-3b9>1a32 3ba-3bb>1a36
3bc-3c0>1a39 3c1=1a42 3c3=1a45 3c4-3c8>1a49 3c9=1a4f 3d9=1a41 3db=1a2f 3dd=1a2d 3df=1a40
3e1=1a51 3e3=1a73 3e5=1a78 3e7=1a79 3e9=1a7c 3eb=1a83 3ed=1a86 3ef=1a8a 3f3=1a35 3f6=38b
3f8=1a53 3fb=1a3f 3fc=1a44 430=1a90 431-433>1a93 434=1a9a 435=1aa1 436=1aa3 437=1aa7 438=1ab2
439=1ab6 43a=1ab9 43b=1ac1 43c=1acb 43d=1ace 43e=1ad7 43f=1ad9 440=1add 441=1ae0 442=1ae3
443=1ae9 444-445>1aee 446=1afb 447=1b00 448=1b0a 449=1b0c 44a=1b10 44b-44c>1b12 44d-44e>1b17
44f=1b1b 452=1a9d 454=1aa2 455=1aac 456=1ab4 458=1ab7 459=1ac7 45a=1ad5 45b=1ae8 45f=1b09
461=1af6 463=1b15 465=1b1d 467=1b1e 469=1b22 46b=1b20 46d=1b24 46f=1b25 471=1b26 473=1b27
475=1b28 479=1aed 47b=1afa 47d=1af9 47f=1af7 481=1adc 482=271 48b=1ab3 48d=1b14 48f=1ade
493=1a96 495=1a98 497=1aa6 499=1aa0 49b=1aba 49d=1abe 49f=1abd 4a1=1abc 4a3=1ad1 4a5=1ad4
4a7=1adb 4a9=1b2a 4ab=1ae2 4ad=1ae6 4af=1aea 4b1=1aeb 4b3=1af2 4b5=1afe 4b7=1b03 4b9=1b05
4bb=1af3 4bd=1b07 4bf=1b08 4c4=1abb 4c6=1ac3 4c8=1ad2 4ca=1ad0 4cc=1b04 4ce=1acc 4cf=1b2c
4d5=1a92 4d9=1a91 4e1=1aae 4e9=1ad8 4f7=1a99 4fb=1a97 4fd=1af0 4ff=1af1 501=1a9b 503=1a9f
505=1aa9 507=1ab0 509=1ac9 50b=1ad6 50d=1ae1 50f=1ae5 511=1aaa 513=1ac5 515=1aca 517=1adf
519=1b1c 51b=1ac0 51d=1b2b 51f=1abf 521=1ac6 523=1ad3 525=1ada 527=1af4 529=1acf 52b=1aa4
52d=1b01 52f=1ac4 559=1bda 55a-55b>19f 55c=66 55d=29 55e=6c 55f=1a1 560=1bb3 561=1bb2
562-575>1bb4 576-586>1bc9 588=1bc8 589=3e 58a=e 58d-58e>272 58f=1865 5be=1a2 5c0=1a3 5c3=1a4
5c6=1a5 5d0-5d9>1bdb 5db-5dc>1be5 5de=1be7 5e0-5e2>1be8 5e4=1beb 5e6-5ea>1bec 5f3-5f4>1a6
606=3a7 607=3a9 608=274 609=16b 60a=16d 60b=1866 60c-60d>2a 60e-60f>275 61b=38 61e=3f 61f=6d
620=1ce7 621-623>1c0b 624-625>1c10 626=1c15 627=1c19 628=1c1b 629-62b>1c2b 62c=1c36 62d-62e>1c40
62f-630>1c4b 631-632>1c5a 633-634>1c6d 635-636>1c78 637-638>1c7e 639-63a>1c82 63b-63c>1cae
63d-63f>1ce4 641=1c8b 642=1c97 643=1c9d 644=1cb3 645=1cbb 646=1cbf 647=1cc9 648=1ccf
649-64a>1cdd 660-669>1890 66a=169 66b-66c>2c 66d=15f 66e=1c1a 66f=1c96 671=1c0f 672=1c0e
673=1c12 679-67a>1c2e 67b=1c1c 67c-67d>1c30 67e=1c1d 67f=1c32 680=1c1e 681-682>1c42 683-684>1c37
685=1c44 686=1c39 687=1c3b 688-68d>1c4d 68e-690>1c54 691-699>1c5c 69a-69c>1c6f 69d=1c7a 69e=1c7c
69f=1c80 6a0=1c84 6a1-6a2>1c8c 6a3-6a4>1c8f 6a5-6a6>1c92 6a7=1c98 6a8=1c9a 6a9-6ac>1c9e
6ad-6ae>1ca3 6af=1ca6 6b0-6b4>1ca8 6b5-6b8>1cb4 6b9=1cc5 6ba=1cc0 6bb-6bd>1cc2 6be=1cca 6bf=1c3a
6c1=1ccb 6c3=1ccc 6c4-6cb>1cd0 6cc-6ce>1cdf 6cf=1cd9 6d0-6d1>1ce2 6d2=1cec 6d4=7a 6d5=1cce
6de=277 6e9=278 6ee=1c57 6ef=1c65 6f0-6f9>1890 6fa=1c72 6fb=1c7d 6fc=1c86 6ff=1ccd 700=ab
701-702>7b 703-708>40 709=6e 70a-70d>1a8 710=1cef 712-713>1cf0 715=1cf3 716=1cf2 717-719>1cf4
71a-71b>1cf8 71d-71f>1cfa 720-723>1cfe 725-726>1d02 728-72c>1d05 74d=1cf7 74e=1cfd 74f=1d04
750-755>1c1f 756=1c26 757-758>1c45 759-75a>1c58 75b=1c66 75c=1c73 75d-75f>1c87 760-761>1c94
762=1cad 763-764>1cb0 765-766>1cbc 767-769>1cc6 76a=1cb8 76b-76c>1c67 76d=1c74 76e-76f>1c47
770=1c75 771=1c69 772=1c49 773-774>1c13 775-777>1ce8 778-779>1cda 77a-77b>1ced 77c=1c4a
77d-77e>1c76 77f=1ca2 780=1d2e 781-783>1d31 784-787>1d35 788=1d3b 789-78b>1d3d 78c=1d41
78d-78e>1d45 78f-790>1d48 791-797>1d4d 798=1d42 799-79a>1d2f 79b=1d40 79c=1d34 79d-79f>1d4a
7a0-7a1>1d43 7a2-7a3>1d39 7a4=1d47 7a5=1d3c 7a6-7b0>1d55 7b1=1d54 7c0-7c9>1890 7ca-7e7>1d60
7f4-7f5>1d7e 7f6=28a 7f7=ac 7f8=2e 7f9=67 7fe-7ff>1867 800-817>1bf1 81a-81b>1c09 830-83e>46
840-858>1d15 85e=1ac 860-86a>1d0a 8a0=1c25 8a1=1c28 8a2=1c3c 8a3=1c81 8a4=1c91 8a5=1c9c 8a6=1cb9
8a7=1cbe 8a8-8a9>1c16 8aa=1c6a 8ab=1cdc 8ac=1c18 8ae=1c53 8af=1c7b 8b0=1ca7 8b1=1cd8 8b2=1c6b
8b3=1c8a 8b4=1ca5 8b6-8b7>1c29 8b8=1c33 8b9=1c6c 8ba=1ceb 8bb=1c8e 8bc=1c99 8bd=1cc1 8be=1c27
8bf-8c0>1c34 8c1=1c3d 8c2=1cb2 8c3=1c85 8c4=1c9b 8c5-8c6>1c3e 8c7=1cba 904-906>1f81 907-90b>1f89
90c=1f8f 90d-910>1f91 911-917>1f96 918-91c>1f9e 91d-920>1fa5 921=1faa 922-928>1fac 92a-92c>1fb3
92d-92f>1fb7 930=1fbb 932-933>1fbc 935-939>1fbe 93a-93b>1fcb 93d=1fc3 93e=1fca 93f-944>1fd0
945=1fd8 946-947>1fda 948=1fdd 949-94d>1fdf 94e=1fdc 94f=1fcd 950=1f7e 955=1fd9 956-957>1fce
960=1f8e 961=1f90 962-963>1fd6 964-965>8d 966-96f>1890 970=1ae 971=184d 972=1f80 973-977>1f84
978=1fa9 979=1fa3 97a=1fba 97b=1f9d 97c=1fa4 97d=1fc4 97e=1fab 97f=1fb6 980=1fe4 985-98b>1fe5
98c=1fed 98f-990>1fef 993-9a8>1ff1 9aa-9b0>2007 9b2=200f 9b6-9b9>2011 9bd-9c4>2015 9c7-9c8>201f
9cb-9cd>2021 9d7=2024 9e0=1fec 9e1=1fee 9e2-9e3>201d 9e6-9ef>1890 9f0=200e 9f1=2010 9f2-9f3>1869
9f4-9f9>1801 9fa=28b 9fb=186b 9fc=2025 9fd=1b3 a05-a06>202b a07-a08>2030 a09-a0a>2028 a0f=2032
a10=202d a13=202a a14=202e a15-a28>2036 a2a-a2f>204a a30=2051 a32=2052 a35=2053 a38-a39>2033
a3e-a42>2055 a47-a48>205a a4b-a4d>205c a51=2035 a5c=2054 a66-a6f>1890 a72=202f a73=2027 a74=2026
a75=2050 a76=1b4 a85-a8b>2060 a8c=2068 a8d=206a a8f-a91>206b a93-a9c>206e a9d-aa8>2079
aaa-ab0>2085 ab2=208c ab3=2092 ab5-ab9>208d abd-ac4>2093 ac5=209d ac7-ac9>209e acb-acd>20a1
ad0=205f ae0=2067 ae1=2069 ae2-ae3>209b ae6-aef>1890 af0=1b5 af1=186c af9=2078 b05-b0b>20a4
b0c=20ac b0f-b10>20ae b13-b28>20b0 b2a-b2f>20c6 b30=20cd b32-b33>20ce b35=20d0 b36-b39>20d2
b3d-b44>20d6 b47-b48>20e0 b4b-b4d>20e2 b56-b57>20e5 b5f=20cc b60=20ab b61=20ad b62-b63>20de
b66-b6f>1890 b70=28c b71=20d1 b72-b77>1807 b83=20f4 b85-b8a>20e8 b8e-b90>20ee b92-b94>20f1
b95=20f5 b99-b9a>20f6 b9c=2107 b9e-b9f>20f8 ba3-ba4>20fa ba8=20fc ba9=2106 baa=20fd bae-bb0>20fe
bb1=2105 bb2=2101 bb3=2104 bb4=2103 bb5=2102 bb6-bb9>2108 bbe-bc2>210c bc6-bc8>2111 bca-bcd>2114
bd0=20e7 bd7=2118 be6-bef>1890 bf0-bf2>1813 bf3-bf8>28d bf9=186e bfa=293 c05-c0b>2119
c0c-c10/2>2121 c0f=2124 c12-c1a>2126 c1b-c1c>2130 c1d-c28>2133 c2a-c32>213f c33-c34>214d
c35-c39>2148 c3d-c44>2150 c46-c48>215a c4a-c4d>215d c55-c56>2161 c58=212f c59=2132 c5a=214f
c60=2120 c61=2122 c62-c63>2158 c66-c6f>1890 c77=1b6 c78-c7b>1890 c7c-c7e>1891 c7f=294 c80=219a
c84=1b7 c85-c8b>2163 c8c-c90/2>216b c8f=216e c92-ca8>2170 caa-cb2>2187 cb3=2195 cb5-cb9>2190
cbd=2197 cbe-cc4>219b cc6-cc8>21a4 cca-ccd>21a7 cd5-cd6>21ab cde=2196 ce0=216a ce1=216c
ce2-ce3>21a2 ce6-cef>1890 cf1-cf2>2198 d04=21e5 d05-d08>21ad d09-d0b>21b2 d0c-d10/2>21b6
d0f=21b9 d12-d30>21bb d31=21e2 d32=21da d33-d34>21e0 d35-d39>21db d3a=21e3 d3d=21e4 d3e-d44>21e6
d46-d48>21ef d4a-d4c>21f2 d4d=21f6 d4f=295 d57=21f5 d58-d5e>1816 d5f=21b1 d60=21b5 d61=21b7
d62-d63>21ed d66-d6f>1890 d70-d78>181d d79=296 d85-d96>21f7 d9a-db1>2209 db3-dbb>2221 dbd=222a
dc0-dc6>222b dca=2243 dcf-dd4>2232 dd6=2238 dd8=2239 dd9-dde>223d ddf=223b de6-def>1890 df2=223a
df3=223c df4=1b8 e01-e3a>231e e3f=186f e40-e45>2358 e46=184e e4f=1b9 e50-e59>1890 e5a-e5b>1ba
e81-e82>235f e84=2361 e86-e89>2362 e8a=2367 e8c=2368 e8d=236b e8e=2369 e8f-ea3>236c ea5=2381
ea7-ea9>2382 eaa=2366 eab-ebd>2385 ec0-ec4>2398 ec6=184f ed0-ed9>1890 ede=235e edf=236a
f01-f03>29e f04-f0a>1be f0b=1c7 f0d-f12>1c8 f13=2a1 f14=5c f15-f17>2a2 f1a-f1f>2a5 f20-f29>1890
f34=2ab f36=2ac f38=2ad f3a-f3d>e9 f40=23e0 f41=23e3 f42=23e5 f44=23e7 f45=23e9 f46=23eb
f47=23ed f49=23ef f4a=23f1 f4b=23f3 f4c=23f5 f4e=23f7 f4f=23f9 f50=23fb f51=23fd f53=23ff
f54=2401 f55=2403 f56=2405 f58=2407 f59=2409 f5a=240b f5b=240d f5d=240f f5e=2411 f5f=2413
f60=2415 f61=2417 f62=2419 f63=241c f64=241e f65=2420 f66=2422 f67=2424 f68=2426 f6b=23e2
f6c=241b f71-f73>2430 f74-f7d>2435 f80-f81>2433 f84=243f f85=1ce f88=2428 f89=242a f8a-f8b>242e
f8c=242c f8d=2429 f8e=242b f8f=242d f90=23e1 f91=23e4 f92=23e6 f94=23e8 f95=23ea f96=23ec
f97=23ee f99=23f0 f9a=23f2 f9b=23f4 f9c=23f6 f9e=23f8 f9f=23fa fa0=23fc fa1=23fe fa3=2400
fa4=2402 fa5=2404 fa6=2406 fa8=2408 fa9=240a faa=240c fab=240e fad=2410 fae=2412 faf=2414
fb0=2416 fb1=2418 fb2=241a fb3=241d fb4=241f fb5=2421 fb6=2423 fb7=2425 fb8=2427 fbe-fc5>2ae
fc7-fcc>2b6 fce-fcf>2bc fd0-fd1>1c5 fd2-fd4>1cf fd5-fd8>2be fd9-fda>1d2 1000=25af 1001=25b1
1002=25b3 1003=25b7 1004=25ba 1005=25bc 1006=25bf 1007=25c3 1008=25c8 1009=25cf 100a-100b>25d3
100c=25d6 100d=25d8 100e=25db 100f=25de 1010-1012>25e2 1013=25e7 1014=25ea 1015-1016>25ee
1017=25f5 1018=25f8 1019=25fb 101a=25fd 101b=25ff 101c=2603 101d=2605 101e=260c 101f=260e
1020=2614 1021-1026>261b 1027-102a>2625 102c=2629 102d=262d 102e=262f 102f=2631 1030=2634
1031=2639 1032=263d 1033=2630 1034=263f 1035=263b 1039-103a>2645 103b=25fe 103c=2602 103d=2606
103e=2611 1040-1049>1890 104a-104b>98 104c-104f>1d7 1050-1051>2609 1052-1055>2621 1056-1059>2635
105a=25bb 105b=25c9 105c-105d>2616 105e=25ed 105f=25fc 1060=2604 1061=25cd 1062=2640
1063-1064>2647 1065=260b 1066=261a 1067-1068>2641 1069-106d>2649 106e=25df 106f-1070>2618
1071=262e 1072=262b 1073-1074>2632 1075=25b0 1076=25b2 1077=25b4 1078=25bd 1079=25c6 107a=25d0
107b=25e5 107c=25eb 107d-107e>25f0 107f=25f6 1080=2608 1081=260f 1082=2607 1083=262a 1084=263a
1085=263c 1086=2644 1087=264e 1088=2650 1089-108a>2653 108b=264f 108c-108d>2651 108e=25f3
108f=2655 1090-1099>1890 109a-109b>2656 109c=262c 109d=263e 109e-109f>2c4 10d0=1b5c 10d1=1b5e
10d2=1b60 10d3=1b62 10d4=1b64 10d5=1b66 10d6=1b68 10d7=1b6c 10d8=1b6e 10d9=1b70 10da=1b72
10db=1b74 10dc=1b76 10dd=1b7a 10de=1b7c 10df=1b7e 10e0=1b80 10e1=1b82 10e2=1b84 10e3=1b88
10e4=1b8a 10e5=1b8c 10e6=1b8e 10e7=1b90 10e8=1b92 10e9=1b94 10ea=1b96 10eb=1b98 10ec=1b9a
10ed=1b9c 10ee=1b9e 10ef=1ba2 10f0=1ba4 10f1=1b6a 10f2=1b78 10f3=1b86 10f4=1ba0 10f5=1ba6
10f6-10f7>1ba8 10f8-10fa>1bab 10fb=ad 10fd=1bae 10fe-10ff>1bb0 1100-115e>2d85 115f-11a7>2e01
11a8-11ff>2e61 1200-120f>1db9 1210-121f>1dca 1220-122f>1ddf 1230-1237>1df0 1238-123f>1dff
1240-1248>1e08 124a-124d>1e11 1250-1256>1e15 1258=1e1c 125a-125d>1e1d 1260-1267>1e21
1268-1277>1e2e 1278-127f>1e3f 1280-1288>1e48 128a-128d>1e51 1290-1297>1e55 1298-129f>1e5e
12a0-12a7>1e67 12a8-12b0>1e70 12b2-12b5>1e79 12b8-12be>1e7d 12c0=1e84 12c2-12c5>1e85
12c8-12d6>1e89 12d8-12df>1e98 12e0-12f7>1ea7 12f8-12ff>1ec6 1300-1307>1ecf 1308-1310>1ed8
1312-1315>1ee1 1318-131f>1ee5 1320-1327>1ef1 1328-132f>1efa 1330-1337>1f0a 1338-133f>1f13
1340-134f>1f22 1350-1357>1f36 1358-135a>1f43 1360=ae 1361=55 1362=7d 1363-1366>56 1367=6f
1368=af 1369-1371>1891 1372-137c>1826 1380-1383>1dda 1384-1387>1e29 1388-138b>1f32
138c-138f>1f3e 1390-1399>240 13f8-13fd>2917 1400=f 1401-157b>291d 157c=2aca 157d=2a98
157e-158d>2a9a 158e-1595>2aab 1596-15a6>2ab9 15a7-166c>2acb 166d=2c2 166e=80 166f=2a99 1670=2aaa
1671-1676>2ab3 1677-167f>2b91 1681-169a>2be0 169b-169c>ed 16a0=2bfa 16a2=2bfb 16a3=2c1f
16a6=2bfc 16a8=2bfd 16aa=2c1b 16ab=2c1d 16af-16b2>2bff 16b7=2c04 16b8=2c22 16b9-16ba>2c05
16be=2c07 16c1=2c08 16c3=2c0a 16c5=2c0b 16c7-16ca>2c0c 16cf=2c11 16d2=2c12 16d6=2c13 16d7=2c15
16da=2c16 16dc=2c17 16de-16df>2c18 16e0=2c20 16e1-16e2>2c24 16e3=2c21 16e4=2c23 16e5-16e6>2c26
16eb-16ed>60 16f1=2c03 16f2=2c10 16f3=2c1a 16f4=2bfe 16f5=2c09 16f6=2c14 16f7=2c1c 16f8=2c1e
1700-170c>24e0 170e-1714>24ed 1720-1734>24f4 1735-1736>95 1740-1753>2509 1760-176c>251d
176e-1770>252a 1772-1773>252d 1780-17a2>265e 17a3-17b3>2682 17b6-17c5>2693 17d2=26a3
17d4-17d5>9a 17d6=5d 17d7=1850 17d8-17da>1db 17db=1870 17dc=2681 17e0-17e9>1890 17f0-17f9>1890
1800=1ad 1801=79 1802=2f 1803=7e 1804-1805>5a 1806-1807>11 1808=30 1809=7f 1810-1819>1890
1820=2827 1821=2829 1822=282c 1823=2832 1824=2834 1825=2837 1826=2839 1827-1829>283c 182a=2843
182b=2845 182c=2848 182d=284a 182e=284f 182f-1831>2851 1832=285a 1833=285d 1834=2860 1835=2866
1836=286a 1837=286d 1838=286f 1839=2871 183a=2874 183b-183c>2879 183d=287d 183e=2881
183f-1842>2884 1843=2826 1844=282a 1845=282d 1846=2833 1847=2835 1848=2838 1849=283a 184a=283f
184b=2844 184c=2846 184d=2849 184e=284b 184f=2850 1850=285b 1851=285e 1852=2861 1853=2867
1854=287b 1855=286b 1856=2870 1857=2875 1858=287f 1859=2882 185a-185b>2888 185c=2864 185d=282b
185e=282e 185f=2831 1860=283b 1861=2836 1862=2840 1863=2876 1864=284c 1865=284e 1866=2847
1867=2854 1868=285c 1869=285f 186a=2868 186b=2872 186c=2880 186d=2883 186e=287c 186f=287e
1870=288a 1871=2862 1872=286c 1873=282f 1874=2877 1875=286e 1876=2873 1877=2869 1878=2863
1880-1886>281f 1887=2828 1888=2830 1889=2878 188a=2841 188b=2865 188c=288b 188d-188e>288d
188f-1890>2890 1891=2894 1892-1893>2896 1894=2899 1895=289b 1896-1897>289d 1898=2892 1899=289c
189a=284d 189b=2842 189c-189d>2855 189e=288c 189f=288f 18a0=2893 18a1=2895 18a2=2857 18a3=289a
18a4-18a5>2858 18a6-18a7>289f 18a8=2898 18a9=28a2 18aa=28a1 18b0-18f5>2b9a 1900-191c>24ae
1920-192b>24cb 1930-1938>24d7 1940=2c3 1944=68 1945=70 1946-194f>1890 1950-196d>26a4
1970-1974>26c2 1980-19ab>26c7 19b0-19c9>26f3 19d0-19d9>1890 19da=1891 19e0-19ff>2c9
1a00-1a1b>252f 1a1e-1a1f>b0 1a20-1a4c>270d 1a4d-1a52>2742 1a53-1a57/2>273a 1a56=273d
1a5c-1a5e>273f 1a60=2759 1a61=2748 1a62-1a63>274a 1a65-1a6a>274c 1a6b=273b 1a6c=2749 1a6d=2758
1a6e-1a6f>2752 1a70-1a72>2755 1a73=2754 1a80-1a89>1890 1a90-1a99>1890 1aa0-1aa6>1de 1aa7=1851
1aa8-1aab>9c 1aac-1aad>1e5 1b05-1b13>279f 1b14-1b22>27b0 1b23-1b27>27c0 1b28-1b2f>27c6
1b30-1b32>27cf 1b33=27d4 1b35-1b44>27d5 1b45-1b46>27ae 1b47=27bf 1b48=27c5 1b49=27ce
1b4a-1b4b>27d2 1b50-1b59>1890 1b5a-1b5b>b2 1b5c=81 1b5d=5e 1b5e-1b5f>a0 1b60=10 1b61-1b6a>2e9
1b74-1b7c>2f3 1b83-1b8a>22ee 1b8b-1b98>22f7 1b99=2306 1b9a=2308 1b9b=230a 1b9c=230d 1b9d=2310
1b9e-1b9f>2312 1ba0=2315 1ba1=2309 1ba2=230b 1ba3=230e 1ba4-1bab>2316 1bac=2307 1bad=2311
1bae=22f6 1baf=2314 1bb0-1bb9>1890 1bbb=230c 1bbc=230f 1bbd=2305 1bc0=254b 1bc2=254c 1bc5=254d
1bc7=254e 1bc9=254f 1bcb=2550 1bce=2551 1bd0-1bd2>2552 1bd4=2555 1bd6=2556 1bd8=2557 1bdb=2558
1bdd-1bde>2559 1be0-1be5>255b 1be7=2561 1be9-1bea>2562 1bec=2564 1bee=2565 1bf0-1bf3>2566
1bfc-1bff>1f2 1c00-1c09>2440 1c0a-1c1a>244d 1c1b=245f 1c1c-1c23>2461 1c24=245e 1c25=2460
1c26-1c35>246a 1c36=2469 1c3b-1c3c>91 1c3d-1c3f>1d4 1c40-1c49>1890 1c4d-1c4f>244a 1c50-1c59>1890
1c5a-1c7d>28a3 1c7e-1c7f>a9 1cc0-1cc7>1e7 1ce9=1fc5 1cf5-1cf6>1fc6 1d00=189b 1d01-1d02>189f
1d03=18ac 1d04=18b4 1d05-1d06>18bd 1d07=18ca 1d08=18db 1d09=1906 1d0a=190f 1d0b=1915 1d0c=1920
1d0d=1933 1d0e=193e 1d0f=194b 1d10=1958 1d11=194c 1d12=1959 1d13=1955 1d14=194f 1d15=1966
1d16-1d17>195e 1d18=1968 1d19=197f 1d1a=1983 1d1b=19a9 1d1c=19b4 1d1d-1d1e>19b6 1d1f=19c7
1d20=19cc 1d21=19d5 1d22=19ea 1d23=19f5 1d24-1d25>1a19 1d26=1a2a 1d27=1a38 1d28=1a3e 1d29=1a43
1d2a=1a4e 1d2b=1ac2 1d2f=18ab 1d3b=193d 1d6b=19b8 1d6c=18ad 1d6d=18c0 1d6e=18e4 1d6f=1934
1d70=193f 1d71=196b 1d72=1981 1d73=198c 1d74=199b 1d75=19ac 1d76=19ec 1d77=18f1 1d7b=1908
1d7c=190c 1d7d=1969 1d7e=19be 1d7f=19ca 1d80=18af 1d81=18c1 1d82=18e5 1d83=18ee 1d84=1916
1d85=1929 1d86=1935 1d87=1943 1d88=196c 1d89=1985 1d8a=199c 1d8b=19a3 1d8c=19ce 1d8d=19da
1d8e=19ed 1d8f=189d 1d90=18a5 1d91=18c4 1d92=18ce 1d93=18d6 1d94=18da 1d95=18d4 1d96=1909
1d97=195b 1d98=19a6 1d99=19bf 1d9a=19f7 1e9c-1e9d>199f 1e9f=18c8 1efd=19d2 1eff=19e6 1fbd=206
1fbf=206 1fc0=208 1ffe=207 2010=13 2012-2015>14 2016=14f 2017=c 2018-201b>d2 201c-201f>d9
2020-2021>16e 2022-2023>174 2027=176 2028-2029>7 2030=16a 2031=16c 2032=17a 2035=17b 2038=17e
2039-203a>d6 203b=17f 203d=76 203e=a 203f=180 2040=182 2041-2042>184 2043=177 2044=3a0
2045-2046>ef 204a=165 204b=158 204c-204d>178 204e=15d 204f=39 2050=183 2051=15e 2052=39c 2053=1a
2054=181 2055-2056>c0 2058-205e>c2 20a0-20a7>1871 20a9-20bf>1879 2104=300 2108=301 2114=302
2117-2118>303 211e-211f>305 2123=307 2125=308 2127=309 2129=30a 212e=30b 213a=30c 2141-2144>30d
214a=311 214b=42b 214c=312 214e=18e7 214f=313 2180-2182>1831 2184=18ba 2185=1896 2186-2188>1834
218a-218b>314 2190=316 2191=318 2192=317 2193-2199>319 219c-21ad>320 21af-21cc>332 21d0-2203>350
2205-2208>384 220a-220b>388 220d=38a 220e-2211>38c 2212=39b 2213-2215>39d 2216-221b>3a1 221c=3a8
221d-2223>3aa 2225=3b1 2227-222b>3b2 222e=3b7 2231-2240>3b8 2242-2243>3c8 2245-2246>3ca 2248=3cc
224a-225f>3cd 2261=3e3 2263-226c>3e4 2272-2273>3ee 2276-2277>3f0 227a-227f>3f2 2282-2283>3f8
2286-2287>3fa 228a-22ab>3fc 22b0-22bc>41e 22bd-22df>42c 22e4-22e9>44f 22ee-2307>455 2308-230b>f1
230c-2328>46f 232b-2426>48c 2440-244a>588 2500-25ff>593 2600-262f>75d 2630-2637>d18
2638-266c>78d 266d-266f>f0b 2670-2689>7c2 268a-268f>d12 2690-26ff>7dc 2700-2720>866
2721-2767>889 2768-2775>119 2794-27c4>8d0 27c5-27c6>10d 27c7-27e5>901 27e6-27ef>10f
27f0-27ff>920 2800-28ff>c12 2900-2982>930 2983-2998>f7 2999-29d7>9b3 29d8-29db>151 29dc-29fb>9f2
29fc-29fd>f5 29fe-2a0b>a12 2a0d-2a73>a20 2a77-2adb>a87 2add-2b73>aec 2b76-2b95>b83 2b97-2bff>ba3
2c30-2c5e>1b2d 2c61=1923 2c65=189c 2c66=19ab 2c68=18fa 2c6a=1918 2c6c=19f2 2c71=19d0 2c73=19d7
2c74=19d1 2c76=18fb 2c77=1972 2c78=18d0 2c79=1987 2c7a=1960 2c7b=18d2 2c81=1a54 2c83=1a55
2c85=1a56 2c87=1a57 2c89=1a58 2c8b=1a5a 2c8d=1a5b 2c8f=1a5c 2c91=1a5d 2c93=1a5e 2c95=1a5f
2c97=1a61 2c99=1a62 2c9b=1a63 2c9d=1a66 2c9f=1a67 2ca1=1a68 2ca3=1a69 2ca5=1a6a 2ca7=1a6b
2ca9=1a6c 2cab=1a6d 2cad=1a6e 2caf=1a6f 2cb1=1a70 2cb3=1a8b 2cb5=1a8c 2cb7=1a59 2cb9=1a60
2cbb=1a64 2cbd=1a65 2cbf=1a71 2cc1=1a72 2cc3=1a75 2cc5=1a76 2cc7=1a77 2cc9=1a7b 2ccb=1a7d
2ccd=1a7e 2ccf=1a7f 2cd1=1a80 2cd3=1a81 2cd5=1a82 2cd7=1a85 2cd9=1a87 2cdb=1a88 2cdd=1a89
2cdf=1a8d 2ce1=1a8e 2ce3=1a8f 2ce5-2cea>c0c 2cec=1a74 2cee=1a84 2cf3=1a7a 2cf9=82 2cfa-2cfb>71
2cfc=ce 2cfd=1837 2cfe=83 2cff=cf 2d00=1b5d 2d01=1b5f 2d02=1b61 2d03=1b63 2d04=1b65 2d05=1b67
2d06=1b69 2d07=1b6d 2d08=1b6f 2d09=1b71 2d0a=1b73 2d0b=1b75 2d0c=1b77 2d0d=1b7b 2d0e=1b7d
2d0f=1b7f 2d10=1b81 2d11=1b83 2d12=1b85 2d13=1b89 2d14=1b8b 2d15=1b8d 2d16=1b8f 2d17=1b91
2d18=1b93 2d19=1b95 2d1a=1b97 2d1b=1b99 2d1c=1b9b 2d1d=1b9d 2d1e=1b9f 2d1f=1ba3 2d20=1ba5
2d21=1b6b 2d22=1b79 2d23=1b87 2d24=1ba1 2d25=1ba7 2d27=1baa 2d2d=1baf 2d30-2d3b>1d80
2d3c-2d53>1d8d 2d54-2d65>1da6 2d66=1d8c 2d67=1da5 2d6f=1db8 2d70=1ef 2d80=1dc9 2d81=1dde
2d82=1def 2d83=1df8 2d84=1e07 2d85=1e2d 2d86=1e3e 2d87=1e47 2d88=1e5d 2d89=1e66 2d8a=1e6f
2d8b=1ea0 2d8c=1ebf 2d8d=1ece 2d8e=1ed7 2d8f=1ef9 2d90=1f02 2d91=1f12 2d92=1f42 2d93-2d96>1eed
2da0-2da6>1f46 2da8-2dae>1f4d 2db0-2db6>1f54 2db8-2dbe>1f5b 2dc0-2dc6>1f62 2dc8-2dce>1f69
2dd0-2dd6>1f70 2dd8-2dde>1f77 2e00-2e01>186 2e02-2e05>127 2e06-2e08>188 2e09-2e0a>12b 2e0b=18b
2e0c-2e0d>12d 2e0e-2e16>18c 2e17=1c 2e18=77 2e19=d0 2e1a-2e1b>195 2e1c-2e1d>12f 2e1e-2e1f>197
2e20-2e29>131 2e2a-2e2d>c9 2e2e=6b 2e2f=1b0e 2e30=84 2e31=8b 2e32=24 2e33=8c 2e34=23 2e35=3a
2e36-2e38>170 2e39=156 2e3a-2e3b>18 2e3c=85 2e3d=cd 2e3e=150 2e3f=15a 2e40=1d 2e41=25 2e42=dd
2e43=1b 2e44-2e48>199 2e49=3c 2e4a=163 2e4b=173 2e4c=26 2e4d=159 2e4e-2e4f>27 2e50-2e51>887
2e52=166 2ff0-2ffb>17c6 3001=34 3002=89 3003=17c 3004=17f6 3005=1858 3007=1890 3008-3011>13b
3012-3013>17f7 3014-301b>145 301c=1e 301d-301f>de 3020=17f9 3021-3029>1891 3030=1f 3031=185a
3033=185b 3035=185c 3037=17fa 303b=1859 303d=17d 303e-303f>17fb 3041=2eea 3043=2eeb 3045=2eec
3047=2eed 3049=2eee 304b=2eef 304d=2ef0 304f=2ef1 3051=2ef2 3053=2ef3 3055=2ef4 3057=2ef5
3059=2ef6 305b=2ef7 305d=2ef8 305f=2ef9 3061=2efa 3063=2efb 3066=2efc 3068=2efd 306a-306f>2efe
3072=2f04 3075=2f05 3078=2f06 307b=2f07 307e-3083>2f08 3085=2f0e 3087=2f0f 3089-308e>2f10
3090-3093>2f16 309b-309c>209 309d=185d 30a0=20 30fb=21 30fc-30fd>185e 3105-3107>2f1a 3108=2f1e
3109-310b>2f20 310c-310e>2f24 310f-3112>2f29 3113-3119>2f30 311a-311b>2f3a 311c-311d>2f3d
311e-3124>2f40 3125=2f48 3126-3129>2f4b 312a=2f1f 312b=2f27 312c=2f2d 312d=2f4f 312f=2f23
3190-3191>17fd 31a4=2f3f 31a6=2f3c 31ac=2f1d 31ad=2f28 31b0-31b1>2f49 31b2=2f47 31b8-31ba>2f37
31bc-31bd>2f2e 31be-31bf>2f50 31c0-31e3>17d2 327f=17ff 4dc0-4dff>d20 a000-a48c>2f52
a490-a4c6>db7 a4d0-a4e9>33e5 a4ea=3401 a4eb=33ff a4ec=3402 a4ed=3400 a4ee-a4f7>3403
a4f8-a4fb>33df a4fc=33e4 a4fd=33e3 a4fe=31 a4ff=86 a500-a60c>2c28 a60d=32 a60e=87 a60f=73
a620-a629>1890 a641=1aa8 a643=1aab a645=1aad a647=1ab5 a649=1ab8 a64b=1aec a64d=1af8 a64f=1b0d
a651=1b11 a653=1b16 a655=1b19 a657=1b1a a659-a65d/2>1b1f a65f=1b29 a661=1afc a663=1a9e a665=1ac8
a667=1acd a673=160 a67e=19e a67f=1b0f a681=1a9c a683=1ab1 a685=1aa5 a687=1b06 a689=1aaf
a68b=1ae7 a68d=1ae4 a68f=1afd a691=1aff a693=1b02 a695=1af5 a697=1b0b a6a0-a6ef>2d35 a6f2=be
a6f3=88 a6f4=63 a6f5=33 a6f6=3b a6f7=74 a700-a721>24a a723=1a13 a725=1a1b a727=18fd a72b=1a07
a72d=1a08 a72f=1a09 a730=18e1 a731=1999 a73f=18bb a741=1919 a743=191a a745=191b a747=191f
a749=1921 a74b=1962 a74d=195d a751=196a a753=196e a755=196f a757=1975 a759=1976 a75b=197e
a75d=1997 a75f=19cd a763=19f3 a765=19fb a767=19fc a769=19fe a76b=1a02 a76d=1a03 a76f=1a04
a771=18c7 a772=192d a773=193a a774=1947 a775-a776>1995 a777=19b1 a778=1a05 a77f=18f2 a781=192f
a788-a78a>26c a78c=1a14 a78e=192b a78f=1a15 a791=1942 a793-a794>18b6 a795=18f8 a797=18ae
a799=18e3 a7af=1974 a7b5=18b2 a7b7=1964 a7b9=19bd a7bb=189e a7bd=190a a7bf=19c1 a7c3=19d6
a7c8=18bf a7ca=199a a7f6=18fc a7f7=1905 a7fa=19c6 a7fb=18e8 a7fc=1970 a7fd=1938 a7fe=1904
a7ff=1939 a800-a806>2283 a807-a80a>228b a80c-a827>228f a828-a82b>297 a82c=228a a830-a835>180d
a836-a837>29b a838=186d a839=29d a840-a847>247a a848-a853>2486 a854-a857>2493 a858=2499
a859-a85a>249c a85b-a85c>249f a85d=24a3 a85e-a861>24a8 a862-a865>24a4 a866=24ac a867=2492
a868=2497 a869-a86c>2482 a86d=2498 a86e=249e a86f-a870>24a1 a871-a872>249a a873=24ad
a874-a875>1f0 a876-a877>93 a882-a8c4>22ab a8ce-a8cf>8f a8d0-a8d9>1890 a8f2=1fc8 a8f8-a8fa>1af
a8fb=1fc9 a8fc=1b2 a8fd=1f7f a8fe=1f95 a8ff=1fde a900-a909>1890 a90a-a92a>258e a92e=1f6 a92f=97
a930-a953>256a a95f=bf a960-a97c>2de4 a984-a9aa>27e5 a9ab-a9b1/2>280d a9ae-a9b2/2>2810
a9b4-a9b8/2>2815 a9b7=2818 a9b9=281a a9ba-a9bb>281c a9bc=2816 a9bd=281b a9be=280c a9bf=280e
a9c0=281e a9c1-a9c6>b4 a9c7=5f a9c8-a9c9>a2 a9ca-a9cd>ba a9cf=1852 a9d0-a9d9>1890 a9de-a9df>1f7
a9e0=25b8 a9e1=25c0 a9e2=25ca a9e3=25e0 a9e4=25f9 a9e5=2643 a9e6=1853 a9e7=25d2 a9e8=25f4
a9e9=25b6 a9ea=25b9 a9eb=25c5 a9ec=25cc a9ed=25da a9ee=25dd a9ef=25e1 a9f0-a9f9>1890 a9fa=2615
a9fb=25e6 a9fc=25e9 a9fd=25f7 a9fe=25fa aa00-aa28>275a aa29-aa32>2787 aa33-aa36>2783
aa40-aa4d>2791 aa50-aa59>1890 aa5c=1f9 aa5d-aa5f>a4 aa60=25b5 aa61=25be aa62=25c1 aa63=25c4
aa64=25cb aa65=25d1 aa66=25d5 aa67=25d7 aa68=25d9 aa69=25dc aa6a=25e8 aa6b=25ec aa6c=260d
aa6d=2610 aa6e=2612 aa6f=25f2 aa70=1854 aa71=2613 aa72=25c7 aa73=2600 aa74-aa76>265b
aa77-aa79>2c6 aa7a=2601 aa7b-aa7d>2658 aa7e=25c2 aa7f=25ce aa80-aabe>239d aac0=23dc aac2=23dd
aadb-aadc>23de aadd=1855 aade-aadf>1bc aae0-aaea>2260 aaeb-aaef>2273 aaf0=a7 aaf1=75 aaf2=2244
aaf3-aaf4>1856 aaf5=2278 aaf6=2282 ab01-ab06>1df9 ab09-ab0e>1ec0 ab11-ab16>1ea1 ab20-ab26>1f03
ab28-ab2e>1f1b ab30=18a4 ab31=18a1 ab32-ab33>18cb ab34=18cf ab35=18e2 ab36=18eb ab37=1928
ab38-ab39>1925 ab3a=1937 ab3b=1946 ab3c=1949 ab3d=194d ab3e=1956 ab3f=195a ab40=1952
ab41-ab42>1950 ab43-ab44>1953 ab45=197b ab46=197d ab47-ab48>198e ab49=198a ab4a-ab4c>1990
ab4d=19a2 ab4e=19b5 ab4f=19bc ab50-ab51>19b9 ab52=19c0 ab53-ab55>19df ab56-ab59>19db ab5a=19e7
ab5b=26f ab60-ab61>19ff ab62=195c ab63=1a01 ab64=18a7 ab65=1a50 ab68=1994 ab6a-ab6b>220
ab70-abbf>28c7 abc0-abda>2245 abdb-abe2>2279 abe3-abea>226b abeb=a8 abed=2281 abf0-abf9>1890
d7b0-d7c6>2e4a d7cb-d7fb>2eb9 fbb2-fbc1>27a fd3e-fd3f>14d fdfd=279 fe45-fe46>35 fffc=1800
1d000-1d0f5>dee 1d100-1d126>ee4 1d129=f1e 1d12a-1d139>f0e 1d13a-1d15d>f1f 1d16a-1d16c>f43
1d183-1d184>f46 1d18c-1d1a9>f48 1d1ae-1d1ba>f66 1d1c1-1d1e8>f73 1d200-1d241>f9b 1d245=fdd
1d2e0-1d2e9>1890 1d2ea-1d2f3>1838 1d300-1d356>d60 1d360-1d368>1891 1d369-1d371>1842
1d372-1d376>1891 1d377=1891 1d378=1895 1f000-1f02b>fde 1f030-1f093>100a 1f0a0-1f0ae>106e
1f0b1-1f0bf>107d 1f0c1-1f0cf>108c 1f0d1-1f0f5>109b 1f10d-1f10f>1122 1f12f=2fd 1f16d-1f16f>1125
1f1ad=2ff 1f1e6-1f1ff>84c 1f260-1f265>1128 1f300-1f5ff>112e 1f600-1f6d7>1565 1f6e0-1f6ec>163d
1f6f0-1f6fc>164a 1f700-1f773>1657 1f780-1f7d8>16cb 1f7e0-1f7eb>1724 1f800-1f80b>1730
1f810-1f847>173c 1f850-1f859>1774 1f860-1f887>177e 1f890-1f8ad>17a6 1f8b0-1f8b1>17c4
1f900-1f978>142e 1f97a-1f9cb>14a7 1f9cd-1f9ff>14f9 1fa00-1fa53>10c0 1fa60-1fa6d>1114
1fa70-1fa74>152c 1fa78-1fa7a>1531 1fa80-1fa86>1534 1fa90-1faa8>153b 1fab0-1fab6>1554
1fac0-1fac2>155b 1fad0-1fad6>155e 1fb00-1fb92>693 1fb94-1fbca>726"

/-- The weights of marks, which count only between words of the same letters. -/
def marks : CodeTable := .ofText
  "300=25 301=24 302=27 303=2d 304=32 305=3a 306=26 307=2e 308=2b 309=3b 30a=29 30b=2c 30c=28
30d-30e=33 30f-311>3c 312=33 313-314>22 315-316>33 317-319=34 31a=33 31b=3f 31c-320=34
321-326>40 327-328>30 329-32c=34 32d-32e>46 32f=34 330-331>48 332=21 333=34 334=4a 335=39
336-337=35 338=2f 339=4b 33a-33c=34 33d-33f=33 342=2a 345=4c 346-347>33 348-349=34 34a-34c=33
34d-34e=34 350-352=33 353-356=34 357=33 358=4d 359-35a=34 35b-35c>33 35d-35e=33 35f=34
360-361>4e 362=34 483=50 484=33 485=23 486=22 487=33 5b0-5b9>52 5ba-5bb>5b 5bc=5f 5bf=60 5c1=5e
5c2=5d 5c7=5a 64b=6d 64c=70 64d=73 64e=76 64f=7a 650=7d 651-655>80 656-658>86 659-65e>8a 65f=85
670=98 711=99 730-73f>9a 741-742>33 745-746>33 7eb-7f3>aa 7fd=34 818-819>6a 81c-81d=62
81e-820=63 821-823=64 824-825=65 826-827=66 828-82a=67 82b-82c>68 82d=6c 859-85b=34 8e3=90
8e4=77 8e5=7b 8e6=7e 8e7=6f 8e8=72 8e9=75 8f0=6e 8f1=71 8f2=74 8f4-8f5>78 8f6=7f 8f7-8f8>91
8f9-8fa>96 8fb-8fc>94 8fd=93 8fe=7c 8ff=89 900-901=c3 902-903>c4 93c=c2 953=25 954=24 981-983>c3
9bc=c2 9fe=c6 a01-a03>c3 a3c=c2 a70-a71>c7 a81-a83>c3 abc=c2 afa=81 afb=80 afc=82 afd-aff=c2
b01-b03>c3 b3c=c2 b55=33 b82=c4 c00-c01=c3 c02-c03>c4 c04=c4 c81-c83>c3 cbc=c2 d00=c4 d01-d03>c3
d81-d83>c3 e47-e4d>d4 e4e=d3 ec8-ecd>db f39=e3 f7e-f7f>c4 1036=c4 1037=e7 1038=c5 135d=b5
135e=b4 135f=b3 17c6-17c7>c4 17c8-17ca>e8 17cb-17d1=33 17dd=33 1939-193b>f3 1a74=c4 1a75-1a7c>eb
1ab0-1ab4=33 1ab5-1aba=34 1abb-1abc=33 1abd=34 1abe=36 1b00-1b01=c3 1b02=c4 1b03=c9 1b04=c5
1b34=c2 1b80=c4 1b81=cb 1b82=c5 1be6=c2 1c37=c2 1ced=c4 1cf2-1cf3=c5 1dc0-1dc1=33 1dc2=34
1dc3-1dc9=33 1dcb-1dce=33 1dcf-1dd0=34 1dd1=33 1df5-1df8=33 1df9=34 1dfb-1dfc>33 1dfd=34
1dfe-1dff>33 20d0-20d2>109 20d3-20d7>10b 20d8-20da=35 20db-20dc>110 20dd-20e0=36 20e1=112
20e2-20e4=36 20e5=35 20e6-20e9>113 20ea-20eb=35 20ec-20ef=34 20f0=33 2cef=33 2cf0=23 2cf1=22
302a-302f>101 3099-309a>37 a66f=51 a67c-a67d=33 a6f0-a6f1>b6 a80b=c4 a880-a881>c4 a8c5=c3
a92b-a92d>e4 a980-a981>c3 a982=ca a983=c5 a9b3=c2 aabf=e1 aac1=e2 abec=cc fb1e=61 fe20=4f
fe22=4e fe27=34 fe29=4e fe2e=50"

/-- Capital letters, ligatures and other forms, with what they are forms of. -/
def forms : CodeTable := .ofText
  "41-5a>61 a0=20 aa=61 b2-b3>32 b5=3bc b9=31 ba=6f bc=31,2044,34 bd=31,2044,32 be=33,2044,34
c6=61,110118,65 d0=64,110118 d8=6f,11002f de=fe df=73,110118,73 e6=61,110118,65 f0=64,110118
f8=6f,11002f 110-111=64,110039 126-127=68,110039 132-133=69,6a 13f-140=6c,110118
141-142=6c,110039 149=2bc,6e 14a=14b 152-153=6f,110118,65 166=167 17f=73,110119 181=253 182=183
184=185 186=254 187=188 189-18a>256 18b=18c 18d=7a,77 18e=1dd 18f=259 190=25b 191=192 193=260
194=263 196=269 197=268 198=199 19c=26f 19d=272 19f=275 1a2=1a3 1a4=1a5 1a6=280 1a7=1a8 1a9=283
1ac=1ad 1ae=288 1b1-1b2>28a 1b3=1b4 1b5=1b6 1b7=292 1b8=1b9 1bc=1bd 1be=74,73
1c4-1c6=64,7a,110028 1c7-1c9=6c,6a 1ca-1cc=6e,6a 1e4=1e5 1f1-1f3=64,7a 1f6=195 1f7=1bf 21c=21d
220=19e 222=223 224=225 238=64,62 239=71,70 23a=2c65 23b=23c 23d=19a 23e=2c66 241=242 243=180
244=289 245=28c 246-24e/2>247 2a3=64,7a 2a4=64,292 2a5=64,291 2a6=74,73 2a7=74,283 2a8=74,255
2a9=66,14b 2aa=6c,73 2ab=6c,7a 2b0=68 2b1=266 2b2=6a 2b3=72 2b4=279 2b5=27b 2b6=281 2b7=77
2b8=79 2e0=263 2e1=6c 2e2=73 2e3=78 2e4=295 363=61 364=65 365=69 366=6f 367=75 368-369>63 36a=68
36b=6d 36c=72 36d=74 36e=76 36f=78 370=371 372=373 376=377 37a=3b9 37f=3f3 391-3a1>3b1
3a3-3a9>3c3 3c2=3c3 3cf=3ba,3b1,3b9 3d0=3b2 3d1=3b8 3d2=3c5 3d5=3c6 3d6=3c0 3d7=3ba,3b1,3b9
3d8-3ee/2>3d9 3f0=3ba 3f1=3c1 3f2=3c3 3f4=3b8 3f5=3b5 3f7=3f8 3f9=3c3 3fa=3fb 3fd-3ff>37b
402-40a/2>452 405=455 409=459 40b=45b 40f=45f 410-42f>430 460-474/2>461 478-480/2>479
48a-48e/2>48b 490-491=433,110119 492-4be/2>493 4c0=4cf 4c3-4cd/2>4c4 4d4=4d5 4d8=4d9 4e0=4e1
4e8=4e9 4f6=4f7 4fa-52e/2>4fb 531-556>561 587=565,582 5da=5db 5dd=5de 5df=5e0 5e3=5e4 5e5=5e6
5ef=5d9,5d4,5d5,5d4 5f0=5d5,5d5 5f1=5d5,5d9 5f2=5d9,5d9 674=621 675=627,621 676=648,621
677=6c7,621 678=64a,621 6e5=648 6e6=64a 6fd=621,110119 6fe=645,110119 714=713,110119
71c=71b,110119 724=723 727=726,110119 72d=712,11011a 72e=713,11011a 72f=715,11011a
7e8=7d6,110118 7e9=7d7,110118 7ea=7d9,110118 8ad=627 9ce=9a4,9cd d3b-d3c=d4d d4e=d30,d4d
d54=d2e,d4d d55=d2f,d4d d56=d34,d4d d7a=d23,d4d d7b=d28,d4d d7c=d30,d4d d7d=d32,d4d d7e=d33,d4d
d7f=d15,d4d edc=eab,e99 edd=eab,ea1 f00=f68,f7c,1100c4 f0c=f0b f2a-f32>31 f33=30 f6a=f62,110119
fba=fad,110119 fbb=fb1,110119 fbc=fb2,110119 102b=102c 103f=101e,1039,101e 10a0-10c5>2d00
10c7=2d27 10cd=2d2d 10fc=10dc 13a0-13ef>ab70 13f0-13f5>13f8 1680=20 16a1=16a0,110118
16a4=16a2,110118 16a5=16a2,110119 16a7=16a6,110118 16a9=16a8,110118 16ac=16a8,110119
16ad=16a8,11011a 16ae=16a8,11011b 16b3=16b2,110118 16b4=16b2,110119 16b5=16b2,11011a
16b6=16b2,11011b 16bb=16ba,110118 16bc=16ba,110119 16bd=16ba,11011a 16bf=16be,110118
16c0=16be,110119 16c2=16c1,110118 16c4=16c3,110118 16c6=16c5,110118 16cb=16ca,110118
16cc=16ca,11011a 16cd=16ca,11011b 16ce=16ca,11011c 16d0=16cf,110118 16d1=16cf,110119
16d3=16d2,110118 16d4=16d2,110119 16d5=16c8,110118 16d8=16d7,110118 16d9=16d7,110119
16db=16da,110118 16dd=16dc,110118 16e7=16e6,110118 16e8=16e6,110119 16e9=16b9,110118
16ea=16ca,110119 16ee=16c5,16da 16ef=16d7,110118,16d7,110118 16f0=16a6,16a6 191d=1908,1929
191e=190b,192a 19de=199c,19b6 19df=199c,19b6,19c1 1a54=1a46,1a60,1a46 1a58-1a59=1a26
1a5a-1a5b=1a3b 1a64=1a63 1abf=77 1ac0=28d 1bba=1b83 1bbe=1b8a 1bbf=1b99 1bc1=1bc0 1bc3-1bc4=1bc2
1bc6-1bcc/2>1bc5 1bcd=1bcb 1bcf=1bce 1bd3-1bd9/2>1bd2 1bda=1bd8 1bdc=1bdb 1bdf=1bde 1be8=1be7
1beb-1bef/2>1bea 1c80=432 1c81=434 1c82=43e 1c83-1c84>441 1c85=442 1c86=44a 1c87=463 1c88=a64b
1c90-1cba>10d0 1cbd-1cbf>10fd 1cea-1cf0/2=1ce9 1ceb=1ce9 1cef=1ce9 1cf1=1ce9 1cfa=1ce9 1d2c=61
1d2d=61,110118,65 1d2e=62 1d30-1d31>64 1d32=1dd 1d33-1d3a>67 1d3c=6f 1d3d=223 1d3e=70 1d3f=72
1d40-1d41>74 1d42=77 1d43=61 1d44-1d45>250 1d46=1d02 1d47=62 1d48-1d49>64 1d4a=259 1d4b=25b
1d4c=1d08 1d4d=67 1d4e=1d09 1d4f=6b 1d50=6d 1d51=14b 1d52=6f 1d53=254 1d54-1d55>1d16 1d56=70
1d57-1d58>74 1d59=1d1d 1d5a=26f 1d5b=76 1d5c=1d25 1d5d-1d5f>3b2 1d60-1d61>3c6 1d62=69 1d63=72
1d64-1d65>75 1d66-1d67>3b2 1d68=3c1 1d69-1d6a>3c6 1d78=43d 1d79=67,110119 1d7a=74,110118,68
1d9b=252 1d9c=63 1d9d=255 1d9e=64,110118 1d9f=25c 1da0=66 1da1=25f 1da2=261 1da3=265
1da4-1da6>268 1da7=1d7b 1da8=29d 1da9=26d 1daa=1d85 1dab=29f 1dac=271 1dad=270 1dae-1db1>272
1db2=278 1db3-1db4>282 1db5=1ab 1db6-1db7>289 1db8=1d1c 1db9-1dba>28b 1dbb=7a 1dbc-1dbe>290
1dbf=3b8 1dca=72 1dd2=a76f 1dd3=61,110118 1dd4=61,110118,65 1dd5=61,6f 1dd6=61,76 1dd7=63,110030
1dd8=64,110119 1dd9=64,110118 1dda=67 1ddb=262 1ddc-1ddd>6b 1dde=29f 1ddf=1d0d 1de0=6e 1de1=274
1de2=280 1de3=a75b 1de4=73 1de5=73,110119 1de6=7a 1de7=251 1de8=62 1de9=a7b5 1dea=259 1deb=66
1dec=ab38 1ded=6f,110034 1dee=70 1def=283 1df0=75,110034 1df1=77 1df2=61,11002b 1df3=6f,11002b
1df4=75,11002b 1e9a=61,2be 1e9e=73,110118,73 1efa-1efb=6c,6c 1efc=1efd 1efe=1eff 2002-200a=20
2011=2010 2024=2e 2025=2e,2e 2026=2e,2e,2e 202f=20 2033=2032,2032 2034=2032,2032,2032
2036=2035,2035 2037=2035,2035,2035 203c=21,21 2047=3f,3f 2048=3f,21 2049=21,3f
2057=2032,2032,2032,2032 205f=20 2070=30 2071=69 2074-2079>34 207a=2b 207b=2212 207c=3d
207d-207e>28 207f=6e 2080-2089>30 208a=2b 208b=2212 208c=3d 208d-208e>28 2090=61 2091=65 2092=6f
2093=78 2094=259 2095=68 2096-2099>6b 209a=70 209b-209c>73 20a8=72,73 2100=61,2f,63
2101=61,2f,73 2102=63 2103=b0,63 2105=63,2f,6f 2106=63,2f,75 2107=25b 2109=b0,66 210a-210b>67
210c-210e=68 210f=68,110039 2110-2111=69 2112-2113=6c 2115=6e 2116=6e,6f 2119-211b>70
211c-211d=72 2120=73,6d 2121=74,65,6c 2122=74,6d 2124=7a 2128=7a 212c-212d>62 212f-2130=65
2131=66 2132=214e 2133=6d 2134=6f 2135-2138>5d0 2139=69 213b=66,61,78 213c=3c0 213d-213e=3b3
213f=3c0 2140=2211 2145-2146=64 2147=65 2148-2149>69 214d=61,2f,73 2150=31,2044,37
2151=31,2044,39 2152=31,2044,31,30 2153=31,2044,33 2154=32,2044,33 2155=31,2044,35
2156=32,2044,35 2157=33,2044,35 2158=34,2044,35 2159=31,2044,36 215a=35,2044,36 215b=31,2044,38
215c=33,2044,38 215d=35,2044,38 215e=37,2044,38 215f=31,2044 2160=69 2161=69,69 2162=69,69,69
2163=69,76 2164=76 2165=76,69 2166=76,69,69 2167=76,69,69,69 2168=69,78 2169=78 216a=78,69
216b=78,69,69 216c=6c 216d-216e>63 216f=6d 2170=69 2171=69,69 2172=69,69,69 2173=69,76 2174=76
2175=76,69 2176=76,69,69 2177=76,69,69,69 2178=69,78 2179=78 217a=78,69 217b=78,69,69 217c=6c
217d-217e>63 217f=6d 2183=2184 2189=30,2044,33 222c=222b,222b 222d=222b,222b,222b 222f=222e,222e
2230=222e,222e,222e 2460-2468>31 2469=31,30 246a=31,31 246b=31,32 246c=31,33 246d=31,34
246e=31,35 246f=31,36 2470=31,37 2471=31,38 2472=31,39 2473=32,30 2474=28,31,29 2475=28,32,29
2476=28,33,29 2477=28,34,29 2478=28,35,29 2479=28,36,29 247a=28,37,29 247b=28,38,29
247c=28,39,29 247d=28,31,30,29 247e=28,31,31,29 247f=28,31,32,29 2480=28,31,33,29
2481=28,31,34,29 2482=28,31,35,29 2483=28,31,36,29 2484=28,31,37,29 2485=28,31,38,29
2486=28,31,39,29 2487=28,32,30,29 2488=31,2e 2489=32,2e 248a=33,2e 248b=34,2e 248c=35,2e
248d=36,2e 248e=37,2e 248f=38,2e 2490=39,2e 2491=31,30,2e 2492=31,31,2e 2493=31,32,2e
2494=31,33,2e 2495=31,34,2e 2496=31,35,2e 2497=31,36,2e 2498=31,37,2e 2499=31,38,2e
249a=31,39,2e 249b=32,30,2e 249c=28,61,29 249d=28,62,29 249e=28,63,29 249f=28,64,29
24a0=28,65,29 24a1=28,66,29 24a2=28,67,29 24a3=28,68,29 24a4=28,69,29 24a5=28,6a,29
24a6=28,6b,29 24a7=28,6c,29 24a8=28,6d,29 24a9=28,6e,29 24aa=28,6f,29 24ab=28,70,29
24ac=28,71,29 24ad=28,72,29 24ae=28,73,29 24af=28,74,29 24b0=28,75,29 24b1=28,76,29
24b2=28,77,29 24b3=28,78,29 24b4=28,79,29 24b5=28,7a,29 24b6-24cf>61 24d0-24e9>61 24ea=30
24eb=31,31 24ec=31,32 24ed=31,33 24ee=31,34 24ef=31,35 24f0=31,36 24f1=31,37 24f2=31,38
24f3=31,39 24f4=32,30 24f5-24fd>31 24fe=31,30 24ff=30 2776-277e>31 277f=31,30 2780-2788>31
2789=31,30 278a-2792>31 2793=31,30 2a0c=222b,222b,222b,222b 2a74=3a,3a,3d 2a75=3d,3d
2a76=3d,3d,3d 2c00-2c2e>2c30 2c60=2c61 2c62=26b 2c63=1d7d 2c64=27d 2c67-2c6b/2>2c68 2c6d=251
2c6e=271 2c6f=250 2c70=252 2c72=2c73 2c75=2c76 2c7c=6a 2c7d=76 2c7e-2c7f>23f 2c80-2ce2/2>2c81
2ce4=2c95,2c81,2c93 2ceb=2cec 2ced=2cee 2cf2=2cf3 2de0-2de3>431 2de4-2de5>436 2de6-2dee>43a
2def-2df3>445 2df4=473 2df5=441,442 2df6=430 2df7=435 2df8=a649 2df9=a64b 2dfa=463 2dfb=44e
2dfc=a657 2dfd=467 2dfe=46b 2dff=46d 3000=20 3006=3057,3081 3032=3031,110037 3034=3033,110037
3036=3012 3038=5341 3039-303a>5344 303c=307e,3059 3042-304a/2>3041 3064=3063 3084-3088/2>3083
308f=308e 3095=304b 3096=3051 309f=3087,308a 30a1-30c3/2>3041 30a2-30aa/2>3041 30c4=3063
30c6-30ce/2>3066 30cb-30cf/2>306b 30d2=3072 30d5=3075 30d8=3078 30db=307b 30de-30e3>307e
30e4-30e8/2>3083 30e5-30ed/2>3085 30ea-30f2/2>308a 30ef=308e 30f1=3091 30f3=3093 30f5=304b
30f6=3051 30ff=3053,3068 312e=311c 3131-3132>1100 3133=11aa 3134=1102 3135-3136>11ac
3137-3139>1103 313a-313f>11b0 3140=111a 3141-3143>1106 3144=1121 3145-314e>1109 314f-3163>1161
3164=1160 3165-3166>1114 3167-3168>11c7 3169=11cc 316a=11ce 316b=11d3 316c=11d7 316d=11d9
316e=111c 316f=11dd 3170=11df 3171-3172>111d 3173=1120 3174-3175>1122 3176=1127 3177=1129
3178-317c>112b 317d=1132 317e=1136 317f=1140 3180=1147 3181=114c 3182-3183>11f1 3184-3186>1157
3187-3188>1184 3189=1188 318a-318b>1191 318c=1194 318d=119e 318e=11a1 3192=4e00 3193=4e8c
3194=4e09 3195=56db 3196=4e0a 3197=4e2d 3198=4e0b 3199=7532 319a=4e59 319b=4e19 319c=4e01
319d=5929 319e=5730 319f=4eba 31a0=3105,110119 31a1=3117,110119 31a2=3110,110119
31a3=310d,110119 31a5=31a4,110119 31a7=311b,110119 31a8=3128,11011a 31a9=311a,110119
31aa=3127,110119 31ab=3128,110119 31ae=311e,110119 31af=3120,110119 31b3=3127,110119 31b4=3106
31b5=310a 31b6-31b7>310e 31bb=310d 31f0=304f 31f1=3057 31f2=3059 31f3=3068 31f4=306c 31f5=306f
31f6=3072 31f7=3075 31f8=3078 31f9=307b 31fa=3080 31fb-31ff>3089 a610=a558 a611=a56a a612=a587
a613=a50c,a60b a614=a51e,a60b a615=a533,a60b a616=a547,a60c a617=a552,a60b a618=a558,a60c
a619=a55a,a60c a61a=a560,a60b a61b=a585,a60b a61c=a5b4,a60b a61d=a5cb,a60b a61e=a5d1,a60c
a61f=a5d8,a60b a62a=a56e a62b=a5d1 a640-a666/2>a641 a668-a66e=43e a674=454 a675=438
a676=456,11002b a677=443 a678-a67a>44a a67b=461 a680-a696/2>a681 a698-a69b=43e a69c=44a a69d=44c
a69e=444 a69f=465 a722-a726/2>a723 a728-a729=74,7a a72a-a72e/2>a72b a732-a733=61,61
a734-a735=61,6f a736-a737=61,75 a738-a739=61,76 a73a-a73b=61,110118,76 a73c-a73d=61,79
a73e-a74c/2>a73f a74e-a74f=6f,6f a750-a75e/2>a751 a760-a761=76,79 a762-a76e/2>a763 a770=a76f
a779-a77a=64,110119 a77b-a77c=66,110119 a77d=67,110119 a77e=a77f a780=a781 a782-a783=72,110119
a784-a785=73,110119 a786-a787=74,110119 a78b=a78c a78d=265 a790=a791 a792=a793 a796=a797
a798=a799 a79a-a79b=61,11002b a79c-a79d=6f,11002b a79e-a79f=75,11002b a7a0-a7a1=67,110035
a7a2-a7a3=6b,110035 a7a4-a7a5=6e,110035 a7a6-a7a7=72,110035 a7a8-a7a9=73,110035 a7aa=266
a7ab=25c a7ac=261 a7ad=26c a7ae=26a a7b0=29e a7b1=287 a7b2=29d a7b3=ab53 a7b4-a7be/2>a7b5
a7c2=a7c3 a7c4=a794 a7c5=282 a7c6=1d8e a7c7=a7c8 a7c9=a7ca a7f5=a7f6 a7f8=68,110039
a7f9=6f,110118,65 a8f3-a8f7=a8f2 a9ac=a9ab a9b5=a9b4 ab5c=a727 ab5d=ab37 ab5e=26b ab5f=ab52
ab66=64,290 ab67=74,282 ab69=28d fb00=66,66 fb01=66,69 fb02=66,6c fb03=66,66,69 fb04=66,66,6c
fb05=73,110119,74 fb06=73,74 fb13=574,576 fb14=574,565 fb15=574,56b fb16=57e,576 fb17=574,56d
fb20=5e2 fb21=5d0 fb22-fb23>5d3 fb24-fb25>5db fb26=5de fb27=5e8 fb28=5ea fb29=2b fb4f=5d0,5dc
fe10=2c fe11-fe12>3001 fe13-fe14>3a fe15=21 fe16=3f fe17-fe18>3016 fe19=2e,2e,2e fe30=2e,2e
fe31=2014 fe32=2013 fe33-fe34=5f fe35-fe36>28 fe37=7b fe38=7d fe39-fe3a>3014 fe3b-fe3c>3010
fe3d-fe3e>300a fe3f-fe40>3008 fe41-fe44>300c fe47=5b fe48=5d fe49-fe4c=203e fe4d-fe4f=5f fe50=2c
fe51=3001 fe52=2e fe54=3b fe55=3a fe56=3f fe57=21 fe58=2014 fe59-fe5a>28 fe5b=7b fe5c=7d
fe5d-fe5e>3014 fe5f=23 fe60=26 fe61-fe62>2a fe63=2d fe64=3c fe65=3e fe66=3d fe68=5c fe69-fe6a>24
fe6b=40 ff01-ff20>21 ff21-ff3a>61 ff3b-ff5e>5b ff5f-ff60>2985 ff61=3002 ff62-ff63>300c ff64=3001
ff65=30fb ff66=3092 ff67=3041 ff68=3043 ff69=3045 ff6a=3047 ff6b=3049 ff6c=3083 ff6d=3085
ff6e=3087 ff6f=3063 ff70=30fc ff71=3041 ff72=3043 ff73=3045 ff74=3047 ff75=3049 ff76=304b
ff77=304d ff78=304f ff79=3051 ff7a=3053 ff7b=3055 ff7c=3057 ff7d=3059 ff7e=305b ff7f=305d
ff80=305f ff81=3061 ff82=3063 ff83=3066 ff84=3068 ff85-ff8a>306a ff8b=3072 ff8c=3075 ff8d=3078
ff8e=307b ff8f-ff94>307e ff95=3085 ff96=3087 ff97-ff9c>3089 ff9d=3093 ff9e-ff9f>110037 ffa0=1160
ffa1-ffa2>1100 ffa3=11aa ffa4=1102 ffa5-ffa6>11ac ffa7-ffa9>1103 ffaa-ffaf>11b0 ffb0=111a
ffb1-ffb3>1106 ffb4=1121 ffb5-ffbe>1109 ffc2-ffc7>1161 ffca-ffcf>1167 ffd2-ffd7>116d
ffda-ffdc>1173 ffe0-ffe1>a2 ffe2=ac ffe3=af ffe4=a6 ffe5=a5 ffe6=20a9 ffe8=2502 ffe9-ffec>2190
ffed=25a0 ffee=25cb 1d400-1d419>61 1d41a-1d433>61 1d434-1d44d>61 1d44e-1d466/2>61
1d44f-1d453/2>62 1d457-1d467/2>6a 1d468-1d481>61 1d482-1d49b>61 1d49c=61 1d49e-1d49f>63 1d4a2=67
1d4a5-1d4a6>6a 1d4a9-1d4ac>6e 1d4ae-1d4b5>73 1d4b6-1d4b9>61 1d4bb-1d4cf/2>66 1d4be-1d4c2/2>69
1d4c6-1d4ce/2>71 1d4d0-1d4e9>61 1d4ea-1d503>61 1d504-1d505>61 1d507-1d50a>64 1d50d-1d514>6a
1d516-1d51c>73 1d51e-1d537>61 1d538-1d539>61 1d53b-1d53e>64 1d540-1d544>69 1d546=6f
1d54a-1d550>73 1d552-1d56b>61 1d56c-1d585>61 1d586-1d59f>61 1d5a0-1d5b9>61 1d5ba-1d5d3>61
1d5d4-1d5ed>61 1d5ee-1d607>61 1d608-1d621>61 1d622-1d63b>61 1d63c-1d655>61 1d656-1d66f>61
1d670-1d689>61 1d68a-1d6a3>61 1d6a4=131 1d6a5=237 1d6a8-1d6b8>3b1 1d6b9=3b8 1d6ba-1d6c0>3c3
1d6c1=2207 1d6c2-1d6d2>3b1 1d6d3-1d6d4=3c3 1d6d5-1d6da>3c4 1d6db=2202 1d6dc=3b5 1d6dd=3b8
1d6de=3ba 1d6df=3c6 1d6e0=3c1 1d6e1=3c0 1d6e2-1d6f2>3b1 1d6f3=3b8 1d6f4-1d6fa>3c3 1d6fb=2207
1d6fc-1d70c>3b1 1d70d-1d70e=3c3 1d70f-1d714>3c4 1d715=2202 1d716=3b5 1d717=3b8 1d718=3ba
1d719=3c6 1d71a=3c1 1d71b=3c0 1d71c-1d72c>3b1 1d72d=3b8 1d72e-1d734>3c3 1d735=2207
1d736-1d746>3b1 1d747-1d748=3c3 1d749-1d74e>3c4 1d74f=2202 1d750=3b5 1d751=3b8 1d752=3ba
1d753=3c6 1d754=3c1 1d755=3c0 1d756-1d766>3b1 1d767=3b8 1d768-1d76e>3c3 1d76f=2207
1d770-1d780>3b1 1d781-1d782=3c3 1d783-1d788>3c4 1d789=2202 1d78a=3b5 1d78b=3b8 1d78c=3ba
1d78d=3c6 1d78e=3c1 1d78f=3c0 1d790-1d7a0>3b1 1d7a1=3b8 1d7a2-1d7a8>3c3 1d7a9=2207
1d7aa-1d7ba>3b1 1d7bb-1d7bc=3c3 1d7bd-1d7c2>3c4 1d7c3=2202 1d7c4=3b5 1d7c5=3b8 1d7c6=3ba
1d7c7=3c6 1d7c8=3c1 1d7c9=3c0 1d7ca-1d7cb=3dd 1d7ce-1d7d7>30 1d7d8-1d7e1>30 1d7e2-1d7eb>30
1d7ec-1d7f5>30 1d7f6-1d7ff>30 1e000-1e018/2>2c30 1e001-1e005/2>2c31 1e009-1e017/2>2c39
1e01b-1e021>2c4b 1e023-1e024>2c53 1e026-1e02a>2c56 1ecb1=31,110118 1ecb2=32,110118
1ed2f=32,110118 1ed30=33,110118 1ed31=34,110118 1ed32=35,110118 1ed33=36,110118 1ed34=37,110118
1ed35=38,110118 1ed36=39,110118 1f100=30,2e 1f101=30,2c 1f102=31,2c 1f103=32,2c 1f104=33,2c
1f105=34,2c 1f106=35,2c 1f107=36,2c 1f108=37,2c 1f109=38,2c 1f10a=39,2c 1f10b-1f10c=30
1f110=28,61,29 1f111=28,62,29 1f112=28,63,29 1f113=28,64,29 1f114=28,65,29 1f115=28,66,29
1f116=28,67,29 1f117=28,68,29 1f118=28,69,29 1f119=28,6a,29 1f11a=28,6b,29 1f11b=28,6c,29
1f11c=28,6d,29 1f11d=28,6e,29 1f11e=28,6f,29 1f11f=28,70,29 1f120=28,71,29 1f121=28,72,29
1f122=28,73,29 1f123=28,74,29 1f124=28,75,29 1f125=28,76,29 1f126=28,77,29 1f127=28,78,29
1f128=28,79,29 1f129=28,7a,29 1f12a=3014,73,3015 1f12b=63 1f12c=72 1f12d=63,64 1f12e=77,7a
1f130-1f149>61 1f14a=68,76 1f14b=6d,76 1f14c=73,64 1f14d=73,73 1f14e=70,70,76 1f14f=77,63
1f150-1f169>61 1f16a=6d,63 1f16b=6d,64 1f16c=6d,72 1f170-1f189>61 1f18a=70 1f18b=69,63
1f18c=70,61 1f18d=73,61 1f18e=61,62 1f18f=77,63 1f190=64,6a 1f191=63,6c 1f192=63,6f,6f,6c
1f193=66,72,65,65 1f194=69,64 1f195=6e,65,77 1f196=6e,67 1f197=6f,6b 1f198=73,6f,73
1f199=75,70,21 1f19a=76,73 1f19b=33,64 1f19c=32,6e,64,20,73,63,72 1f19d=32,6b 1f19e=34,6b
1f19f=38,6b 1f1a0=35,2e,31 1f1a1=37,2e,31 1f1a2=32,32,2e,32 1f1a3=36,30,70 1f1a4=31,32,30,70
1f1a5=64 1f1a6=68,63 1f1a7=68,64,72 1f1a8=68,69,20,72,65,73 1f1a9=6c,6f,73,73,6c,65,73,73
1f1aa=73,68,76 1f1ab=75,68,64 1f1ac=76,6f,64 1fbf0-1fbf9>30"

/-- The kinds of forms, by their weights; characters that are no forms do not count. -/
def kinds : CodeTable := .ofText
  "41-5a=8 a0=1b aa-b3=14 b5=4 b9-ba=14 bc-be=1e c6-d0=a d8-de=8 df-f0=4 f8=2 110=8 111=2 126=8
127=2 132=a 133=4 13f=8 140=2 141=8 142=2 149=4 14a=8 152=a 153=4 166=8 17f=4 181-18b=8 18d=4
18e-1bc=8 1be=4 1c4-1c5=a 1c6=4 1c7-1c8=a 1c9=4 1ca-1cb=a 1cc=4 1e4=8 1f1-1f2=a 1f3=4 1f6-224=8
238-239=4 23a-24e=8 2a3-2ab=4 2b0-2e4=14 363-36f=4 370-376=8 37a=4 37f-3a9=8 3c2=19 3cf=a
3d0-3d1=4 3d2=a 3d5-3d7=4 3d8-3ee=8 3f0-3f2=4 3f4=a 3f5=4 3f7=8 3f9=a 3fa-48e=8 490=a 491=4
492-556=8 587=4 5da-5e5=19 5ef-71c=4 724=19 727-f00=4 f0c=1b f2a-103f=4 10a0-10cd=8 10fc=14
13a0-13f5=8 1680-1bba=4 1bbe-1bbf=19 1bc1-1c88=4 1c90-1cbf=8 1cea-1cfa=4 1d2c=1d 1d2d=14
1d2e-1d42=1d 1d43-1d61=14 1d62-1d6a=15 1d78=14 1d79-1d7a=4 1d9b-1dbf=14 1dca-1e9a=4 1e9e-1efa=a
1efb=4 1efc-1efe=8 2002-2006=4 2007=1b 2008-200a=4 2011=1b 2024-2026=4 202f=1b 2033-205f=4
2070-207f=14 2080-209c=15 20a8=a 2100-2101=4 2102=b 2103=a 2105-2106=4 2107-2109=a 210a=5
210b-210d=b 210e=5 210f=2 2110-2112=b 2113=5 2115=b 2116=a 2119-211d=b 2120=14 2121=a 2122=14
2124-212d=b 212f=5 2130-2131=b 2132=8 2133=b 2134=5 2135-2138=4 2139=5 213b=a 213c-213d=5
213e-213f=b 2140=5 2145=b 2146-2149=5 214d=a 2150-215f=1e 2160-216f=a 2170-217f=4 2183=8 2189=1e
222c-2230=4 2460-2473=6 2474-24b5=4 24b6-24cf=c 24d0-2793=6 2a0c-2a76=4 2c00-2c75=8 2c7c=15
2c7d=1d 2c7e-2ce2=8 2ce4=4 2ceb-2cf2=8 2de0-2dff=4 3000=3 3006=4 3032-3034=2 3036-303c=4
3042-308f=e 3095-3096=d 309f=16 30a1=f 30a2=11 30a3=f 30a4=11 30a5=f 30a6=11 30a7=f 30a8=11
30a9=f 30aa-30c1=11 30c3=f 30c4-30e2=11 30e3=f 30e4=11 30e5=f 30e6=11 30e7=f 30e8-30ed=11 30ee=f
30ef-30f3=11 30f5-30f6=f 30ff=16 312e-318e=4 3192-319f=14 31a0-31af=4 31b3=16 31b4-31bb=19
31f0-31ff=f a610-a62b=4 a640-a666=8 a668=a a669=4 a66a=a a66b=4 a66c=a a66d-a67b=4 a680-a696=8
a698=a a699=4 a69a=a a69b=4 a69c-a69d=14 a69e-a69f=4 a722-a726=8 a728=a a729=4 a72a-a72e=8
a732=a a733=4 a734=a a735=4 a736=a a737=4 a738=a a739=4 a73a=a a73b=4 a73c=a a73d=4 a73e-a74c=8
a74e=a a74f=4 a750-a75e=8 a760=a a761=4 a762-a76e=8 a770=14 a779=a a77a=4 a77b=a a77c=4 a77d=a
a77e-a780=8 a782=a a783=4 a784=a a785=4 a786=a a787=4 a78b-a798=8 a79a=a a79b=4 a79c=a a79d=4
a79e=a a79f=4 a7a0=a a7a1=4 a7a2=a a7a3=4 a7a4=a a7a5=4 a7a6=a a7a7=4 a7a8=a a7a9=4 a7aa-a7f5=8
a7f8-a7f9=14 a8f3-a9b5=4 ab5c-ab5f=14 ab66-ab67=4 ab69=14 fb00-fb17=4 fb20-fb29=5 fb4f=4
fe10-fe48=16 fe49-fe4f=4 fe50-fe6b=f ff01-ff20=3 ff21-ff3a=9 ff3b-ff60=3 ff61-ff66=12
ff67-ff6f=10 ff70-ffdc=12 ffe0-ffe6=3 ffe8-ffee=12 1d400-1d419=b 1d41a-1d433=5 1d434-1d44d=b
1d44e-1d467=5 1d468-1d481=b 1d482-1d49b=5 1d49c-1d4b5=b 1d4b6-1d4cf=5 1d4d0-1d4e9=b
1d4ea-1d503=5 1d504-1d51c=b 1d51e-1d537=5 1d538-1d550=b 1d552-1d56b=5 1d56c-1d585=b
1d586-1d59f=5 1d5a0-1d5b9=b 1d5ba-1d5d3=5 1d5d4-1d5ed=b 1d5ee-1d607=5 1d608-1d621=b
1d622-1d63b=5 1d63c-1d655=b 1d656-1d66f=5 1d670-1d689=b 1d68a-1d6a5=5 1d6a8-1d6c0=b
1d6c1-1d6e1=5 1d6e2-1d6fa=b 1d6fb-1d71b=5 1d71c-1d734=b 1d735-1d755=5 1d756-1d76e=b
1d76f-1d78f=5 1d790-1d7a8=b 1d7a9-1d7c9=5 1d7ca=b 1d7cb-1d7ff=5 1e000-1f10a=4 1f10b-1f10c=6
1f110-1f12a=a 1f12b-1f12e=c 1f130-1f14f=1d 1f150-1f169=c 1f16a-1f16c=14 1f170-1f19f=1d
1f1a0-1f1a2=1c 1f1a3-1f1a4=1d 1f1a5=1c 1f1a6-1f1ac=1d 1fbf0-1fbf9=5"

/-- Characters that do not count in the order of words. -/
def ignored : CodeTable := .ofText
  "0-8 e-1f 7f-84 86-9f ad 34f 488-489 591-5af 5bd 5c4-5c5 600-605 610-61a 61c 640 6d6-6dd 6df-6e4
6e7-6e8 6ea-6ed 70f 740 743-744 747-74a 7fa 8d3-8e2 8ea-8ef 8f3 951-952 f18-f19 f35 f37 f3e-f3f
f82-f83 f86-f87 fc6 17b4-17b5 17d3 180a-180e 1a7f 1b6b-1b73 1cd0-1ce8 1cf4 1cf7-1cf9 200b-200f
202a-202e 2060-2064 2066-206f 2d7f a670-a672 a8e0-a8f1 fe00-fe0f fe21 fe23-fe26 fe28 fe2a-fe2d
fe2f fe73 feff fff9-fffb 1d165-1d169 1d16d-1d182 1d185-1d18b 1d1aa-1d1ad 1d242-1d244 1da00-1da36
1da3b-1da6c 1da75 1da84 1da9b-1da9f 1daa1-1daaf 1e8d0-1e8d6 e0001 e0020-e007f e0100-e01ef"

end KeyClient.Text.Collation
