/-!
Canonical composition: for each second character the firsts it composes with and what they make,
`second:first=whole,…`, and the combining classes as runs `first,count,class`, all in hexadecimal.
-/

namespace AccessGate.Unicode

def compositionGroups : List String :=
  ["300:41=c0,45=c8,49=cc,4f=d2,55=d9,61=e0,65=e8,69=ec,6f=f2,75=f9,dc=1db,fc=1dc,4e=1f8,6e=",
   "1f9,415=400,418=40d,435=450,438=45d,112=1e14,113=1e15,14c=1e50,14d=1e51,57=1e80,77=1e81,",
   "c2=1ea6,e2=1ea7,102=1eb0,103=1eb1,ca=1ec0,ea=1ec1,d4=1ed2,f4=1ed3,1a0=1edc,1a1=1edd,1af=",
   "1eea,1b0=1eeb,59=1ef2,79=1ef3,1f00=1f02,1f01=1f03,1f08=1f0a,1f09=1f0b,1f10=1f12,1f11=1f1",
   "3,1f18=1f1a,1f19=1f1b,1f20=1f22,1f21=1f23,1f28=1f2a,1f29=1f2b,1f30=1f32,1f31=1f33,1f38=1",
   "f3a,1f39=1f3b,1f40=1f42,1f41=1f43,1f48=1f4a,1f49=1f4b,1f50=1f52,1f51=1f53,1f59=1f5b,1f60",
   "=1f62,1f61=1f63,1f68=1f6a,1f69=1f6b,3b1=1f70,3b5=1f72,3b7=1f74,3b9=1f76,3bf=1f78,3c5=1f7",
   "a,3c9=1f7c,391=1fba,395=1fc8,397=1fca,1fbf=1fcd,3ca=1fd2,399=1fda,1ffe=1fdd,3cb=1fe2,3a5",
   "=1fea,a8=1fed,39f=1ff8,3a9=1ffa;301:41=c1,45=c9,49=cd,4f=d3,55=da,59=dd,61=e1,65=e9,69=e",
   "d,6f=f3,75=fa,79=fd,43=106,63=107,4c=139,6c=13a,4e=143,6e=144,52=154,72=155,53=15a,73=15",
   "b,5a=179,7a=17a,dc=1d7,fc=1d8,47=1f4,67=1f5,c5=1fa,e5=1fb,c6=1fc,e6=1fd,d8=1fe,f8=1ff,a8",
   "=385,391=386,395=388,397=389,399=38a,39f=38c,3a5=38e,3a9=38f,3ca=390,3b1=3ac,3b5=3ad,3b7",
   "=3ae,3b9=3af,3cb=3b0,3bf=3cc,3c5=3cd,3c9=3ce,3d2=3d3,413=403,41a=40c,433=453,43a=45c,c7=",
   "1e08,e7=1e09,112=1e16,113=1e17,cf=1e2e,ef=1e2f,4b=1e30,6b=1e31,4d=1e3e,6d=1e3f,d5=1e4c,f",
   "5=1e4d,14c=1e52,14d=1e53,50=1e54,70=1e55,168=1e78,169=1e79,57=1e82,77=1e83,c2=1ea4,e2=1e",
   "a5,102=1eae,103=1eaf,ca=1ebe,ea=1ebf,d4=1ed0,f4=1ed1,1a0=1eda,1a1=1edb,1af=1ee8,1b0=1ee9",
   ",1f00=1f04,1f01=1f05,1f08=1f0c,1f09=1f0d,1f10=1f14,1f11=1f15,1f18=1f1c,1f19=1f1d,1f20=1f",
   "24,1f21=1f25,1f28=1f2c,1f29=1f2d,1f30=1f34,1f31=1f35,1f38=1f3c,1f39=1f3d,1f40=1f44,1f41=",
   "1f45,1f48=1f4c,1f49=1f4d,1f50=1f54,1f51=1f55,1f59=1f5d,1f60=1f64,1f61=1f65,1f68=1f6c,1f6",
   "9=1f6d,1fbf=1fce,1ffe=1fde;302:41=c2,45=ca,49=ce,4f=d4,55=db,61=e2,65=ea,69=ee,6f=f4,75=",
   "fb,43=108,63=109,47=11c,67=11d,48=124,68=125,4a=134,6a=135,53=15c,73=15d,57=174,77=175,5",
   "9=176,79=177,5a=1e90,7a=1e91,1ea0=1eac,1ea1=1ead,1eb8=1ec6,1eb9=1ec7,1ecc=1ed8,1ecd=1ed9",
   ";303:41=c3,4e=d1,4f=d5,61=e3,6e=f1,6f=f5,49=128,69=129,55=168,75=169,56=1e7c,76=1e7d,c2=",
   "1eaa,e2=1eab,102=1eb4,103=1eb5,45=1ebc,65=1ebd,ca=1ec4,ea=1ec5,d4=1ed6,f4=1ed7,1a0=1ee0,",
   "1a1=1ee1,1af=1eee,1b0=1eef,59=1ef8,79=1ef9;304:41=100,61=101,45=112,65=113,49=12a,69=12b",
   ",4f=14c,6f=14d,55=16a,75=16b,dc=1d5,fc=1d6,c4=1de,e4=1df,226=1e0,227=1e1,c6=1e2,e6=1e3,1",
   "ea=1ec,1eb=1ed,d6=22a,f6=22b,d5=22c,f5=22d,22e=230,22f=231,59=232,79=233,418=4e2,438=4e3",
   ",423=4ee,443=4ef,47=1e20,67=1e21,1e36=1e38,1e37=1e39,1e5a=1e5c,1e5b=1e5d,3b1=1fb1,391=1f",
   "b9,3b9=1fd1,399=1fd9,3c5=1fe1,3a5=1fe9;306:41=102,61=103,45=114,65=115,47=11e,67=11f,49=",
   "12c,69=12d,4f=14e,6f=14f,55=16c,75=16d,423=40e,418=419,438=439,443=45e,416=4c1,436=4c2,4",
   "10=4d0,430=4d1,415=4d6,435=4d7,228=1e1c,229=1e1d,1ea0=1eb6,1ea1=1eb7,3b1=1fb0,391=1fb8,3",
   "b9=1fd0,399=1fd8,3c5=1fe0,3a5=1fe8;307:43=10a,63=10b,45=116,65=117,47=120,67=121,49=130,",
   "5a=17b,7a=17c,41=226,61=227,4f=22e,6f=22f,42=1e02,62=1e03,44=1e0a,64=1e0b,46=1e1e,66=1e1",
   "f,48=1e22,68=1e23,4d=1e40,6d=1e41,4e=1e44,6e=1e45,50=1e56,70=1e57,52=1e58,72=1e59,53=1e6",
   "0,73=1e61,15a=1e64,15b=1e65,160=1e66,161=1e67,1e62=1e68,1e63=1e69,54=1e6a,74=1e6b,57=1e8",
   "6,77=1e87,58=1e8a,78=1e8b,59=1e8e,79=1e8f,17f=1e9b;308:41=c4,45=cb,49=cf,4f=d6,55=dc,61=",
   "e4,65=eb,69=ef,6f=f6,75=fc,79=ff,59=178,399=3aa,3a5=3ab,3b9=3ca,3c5=3cb,3d2=3d4,415=401,",
   "406=407,435=451,456=457,410=4d2,430=4d3,4d8=4da,4d9=4db,416=4dc,436=4dd,417=4de,437=4df,",
   "418=4e4,438=4e5,41e=4e6,43e=4e7,4e8=4ea,4e9=4eb,42d=4ec,44d=4ed,423=4f0,443=4f1,427=4f4,",
   "447=4f5,42b=4f8,44b=4f9,48=1e26,68=1e27,d5=1e4e,f5=1e4f,16a=1e7a,16b=1e7b,57=1e84,77=1e8",
   "5,58=1e8c,78=1e8d,74=1e97;309:41=1ea2,61=1ea3,c2=1ea8,e2=1ea9,102=1eb2,103=1eb3,45=1eba,",
   "65=1ebb,ca=1ec2,ea=1ec3,49=1ec8,69=1ec9,4f=1ece,6f=1ecf,d4=1ed4,f4=1ed5,1a0=1ede,1a1=1ed",
   "f,55=1ee6,75=1ee7,1af=1eec,1b0=1eed,59=1ef6,79=1ef7;30a:41=c5,61=e5,55=16e,75=16f,77=1e9",
   "8,79=1e99;30b:4f=150,6f=151,55=170,75=171,423=4f2,443=4f3;30c:43=10c,63=10d,44=10e,64=10",
   "f,45=11a,65=11b,4c=13d,6c=13e,4e=147,6e=148,52=158,72=159,53=160,73=161,54=164,74=165,5a",
   "=17d,7a=17e,41=1cd,61=1ce,49=1cf,69=1d0,4f=1d1,6f=1d2,55=1d3,75=1d4,dc=1d9,fc=1da,47=1e6",
   ",67=1e7,4b=1e8,6b=1e9,1b7=1ee,292=1ef,6a=1f0,48=21e,68=21f;30f:41=200,61=201,45=204,65=2",
   "05,49=208,69=209,4f=20c,6f=20d,52=210,72=211,55=214,75=215,474=476,475=477;311:41=202,61",
   "=203,45=206,65=207,49=20a,69=20b,4f=20e,6f=20f,52=212,72=213,55=216,75=217;313:3b1=1f00,",
   "391=1f08,3b5=1f10,395=1f18,3b7=1f20,397=1f28,3b9=1f30,399=1f38,3bf=1f40,39f=1f48,3c5=1f5",
   "0,3c9=1f60,3a9=1f68,3c1=1fe4;314:3b1=1f01,391=1f09,3b5=1f11,395=1f19,3b7=1f21,397=1f29,3",
   "b9=1f31,399=1f39,3bf=1f41,39f=1f49,3c5=1f51,3a5=1f59,3c9=1f61,3a9=1f69,3c1=1fe5,3a1=1fec",
   ";31b:4f=1a0,6f=1a1,55=1af,75=1b0;323:42=1e04,62=1e05,44=1e0c,64=1e0d,48=1e24,68=1e25,4b=",
   "1e32,6b=1e33,4c=1e36,6c=1e37,4d=1e42,6d=1e43,4e=1e46,6e=1e47,52=1e5a,72=1e5b,53=1e62,73=",
   "1e63,54=1e6c,74=1e6d,56=1e7e,76=1e7f,57=1e88,77=1e89,5a=1e92,7a=1e93,41=1ea0,61=1ea1,45=",
   "1eb8,65=1eb9,49=1eca,69=1ecb,4f=1ecc,6f=1ecd,1a0=1ee2,1a1=1ee3,55=1ee4,75=1ee5,1af=1ef0,",
   "1b0=1ef1,59=1ef4,79=1ef5;324:55=1e72,75=1e73;325:41=1e00,61=1e01;326:53=218,73=219,54=21",
   "a,74=21b;327:43=c7,63=e7,47=122,67=123,4b=136,6b=137,4c=13b,6c=13c,4e=145,6e=146,52=156,",
   "72=157,53=15e,73=15f,54=162,74=163,45=228,65=229,44=1e10,64=1e11,48=1e28,68=1e29;328:41=",
   "104,61=105,45=118,65=119,49=12e,69=12f,55=172,75=173,4f=1ea,6f=1eb;32d:44=1e12,64=1e13,4",
   "5=1e18,65=1e19,4c=1e3c,6c=1e3d,4e=1e4a,6e=1e4b,54=1e70,74=1e71,55=1e76,75=1e77;32e:48=1e",
   "2a,68=1e2b;330:45=1e1a,65=1e1b,49=1e2c,69=1e2d,55=1e74,75=1e75;331:42=1e06,62=1e07,44=1e",
   "0e,64=1e0f,4b=1e34,6b=1e35,4c=1e3a,6c=1e3b,4e=1e48,6e=1e49,52=1e5e,72=1e5f,54=1e6e,74=1e",
   "6f,5a=1e94,7a=1e95,68=1e96;338:2190=219a,2192=219b,2194=21ae,21d0=21cd,21d4=21ce,21d2=21",
   "cf,2203=2204,2208=2209,220b=220c,2223=2224,2225=2226,223c=2241,2243=2244,2245=2247,2248=",
   "2249,3d=2260,2261=2262,224d=226d,3c=226e,3e=226f,2264=2270,2265=2271,2272=2274,2273=2275",
   ",2276=2278,2277=2279,227a=2280,227b=2281,2282=2284,2283=2285,2286=2288,2287=2289,22a2=22",
   "ac,22a8=22ad,22a9=22ae,22ab=22af,227c=22e0,227d=22e1,2291=22e2,2292=22e3,22b2=22ea,22b3=",
   "22eb,22b4=22ec,22b5=22ed;342:1f00=1f06,1f01=1f07,1f08=1f0e,1f09=1f0f,1f20=1f26,1f21=1f27",
   ",1f28=1f2e,1f29=1f2f,1f30=1f36,1f31=1f37,1f38=1f3e,1f39=1f3f,1f50=1f56,1f51=1f57,1f59=1f",
   "5f,1f60=1f66,1f61=1f67,1f68=1f6e,1f69=1f6f,3b1=1fb6,a8=1fc1,3b7=1fc6,1fbf=1fcf,3b9=1fd6,",
   "3ca=1fd7,1ffe=1fdf,3c5=1fe6,3cb=1fe7,3c9=1ff6;345:1f00=1f80,1f01=1f81,1f02=1f82,1f03=1f8",
   "3,1f04=1f84,1f05=1f85,1f06=1f86,1f07=1f87,1f08=1f88,1f09=1f89,1f0a=1f8a,1f0b=1f8b,1f0c=1",
   "f8c,1f0d=1f8d,1f0e=1f8e,1f0f=1f8f,1f20=1f90,1f21=1f91,1f22=1f92,1f23=1f93,1f24=1f94,1f25",
   "=1f95,1f26=1f96,1f27=1f97,1f28=1f98,1f29=1f99,1f2a=1f9a,1f2b=1f9b,1f2c=1f9c,1f2d=1f9d,1f",
   "2e=1f9e,1f2f=1f9f,1f60=1fa0,1f61=1fa1,1f62=1fa2,1f63=1fa3,1f64=1fa4,1f65=1fa5,1f66=1fa6,",
   "1f67=1fa7,1f68=1fa8,1f69=1fa9,1f6a=1faa,1f6b=1fab,1f6c=1fac,1f6d=1fad,1f6e=1fae,1f6f=1fa",
   "f,1f70=1fb2,3b1=1fb3,3ac=1fb4,1fb6=1fb7,391=1fbc,1f74=1fc2,3b7=1fc3,3ae=1fc4,1fc6=1fc7,3",
   "97=1fcc,1f7c=1ff2,3c9=1ff3,3ce=1ff4,1ff6=1ff7,3a9=1ffc;653:627=622;654:627=623,648=624,6",
   "4a=626,6d5=6c0,6c1=6c2,6d2=6d3;655:627=625;93c:928=929,930=931,933=934;9be:9c7=9cb;9d7:9",
   "c7=9cc;b3e:b47=b4b;b56:b47=b48;b57:b47=b4c;bbe:bc6=bca,bc7=bcb;bd7:b92=b94,bc6=bcc;c56:c",
   "46=c48;cc2:cc6=cca;cd5:cbf=cc0,cc6=cc7,cca=ccb;cd6:cc6=cc8;d3e:d46=d4a,d47=d4b;d57:d46=d",
   "4c;dca:dd9=dda,ddc=ddd;dcf:dd9=ddc;ddf:dd9=dde;102e:1025=1026;1b35:1b05=1b06,1b07=1b08,1",
   "b09=1b0a,1b0b=1b0c,1b0d=1b0e,1b11=1b12,1b3a=1b3b,1b3c=1b3d,1b3e=1b40,1b3f=1b41,1b42=1b43",
   ";3099:304b=304c,304d=304e,304f=3050,3051=3052,3053=3054,3055=3056,3057=3058,3059=305a,30",
   "5b=305c,305d=305e,305f=3060,3061=3062,3064=3065,3066=3067,3068=3069,306f=3070,3072=3073,",
   "3075=3076,3078=3079,307b=307c,3046=3094,309d=309e,30ab=30ac,30ad=30ae,30af=30b0,30b1=30b",
   "2,30b3=30b4,30b5=30b6,30b7=30b8,30b9=30ba,30bb=30bc,30bd=30be,30bf=30c0,30c1=30c2,30c4=3",
   "0c5,30c6=30c7,30c8=30c9,30cf=30d0,30d2=30d3,30d5=30d6,30d8=30d9,30db=30dc,30a6=30f4,30ef",
   "=30f7,30f0=30f8,30f1=30f9,30f2=30fa,30fd=30fe;309a:306f=3071,3072=3074,3075=3077,3078=30",
   "7a,307b=307d,30cf=30d1,30d2=30d4,30d5=30d7,30d8=30da,30db=30dd;110ba:11099=1109a,1109b=1",
   "109c,110a5=110ab;11127:11131=1112e,11132=1112f;1133e:11347=1134b;11357:11347=1134c;114b0",
   ":114b9=114bc;114ba:114b9=114bb;114bd:114b9=114be;115af:115b8=115ba,115b9=115bb;11930:119",
   "35=11938"]

def combiningRuns : List String :=
  ["300,15,e6;315,1,e8;316,4,dc;31a,1,e8;31b,1,d8;31c,5,dc;321,2,ca;323,4,dc;327,2,ca;329,b,",
   "dc;334,5,1;339,4,dc;33d,8,e6;345,1,f0;346,1,e6;347,3,dc;34a,3,e6;34d,2,dc;350,3,e6;353,4",
   ",dc;357,1,e6;358,1,e8;359,2,dc;35b,1,e6;35c,1,e9;35d,2,ea;35f,1,e9;360,2,ea;362,1,e9;363",
   ",d,e6;483,5,e6;591,1,dc;592,4,e6;596,1,dc;597,3,e6;59a,1,de;59b,1,dc;59c,6,e6;5a2,6,dc;5",
   "a8,2,e6;5aa,1,dc;5ab,2,e6;5ad,1,de;5ae,1,e4;5af,1,e6;5b0,1,a;5b1,1,b;5b2,1,c;5b3,1,d;5b4",
   ",1,e;5b5,1,f;5b6,1,10;5b7,1,11;5b8,1,12;5b9,2,13;5bb,1,14;5bc,1,15;5bd,1,16;5bf,1,17;5c1",
   ",1,18;5c2,1,19;5c4,1,e6;5c5,1,dc;5c7,1,12;610,8,e6;618,1,1e;619,1,1f;61a,1,20;64b,1,1b;6",
   "4c,1,1c;64d,1,1d;64e,1,1e;64f,1,1f;650,1,20;651,1,21;652,1,22;653,2,e6;655,2,dc;657,5,e6",
   ";65c,1,dc;65d,2,e6;65f,1,dc;670,1,23;6d6,7,e6;6df,4,e6;6e3,1,dc;6e4,1,e6;6e7,2,e6;6ea,1,",
   "dc;6eb,2,e6;6ed,1,dc;711,1,24;730,1,e6;731,1,dc;732,2,e6;734,1,dc;735,2,e6;737,3,dc;73a,",
   "1,e6;73b,2,dc;73d,1,e6;73e,1,dc;73f,3,e6;742,1,dc;743,1,e6;744,1,dc;745,1,e6;746,1,dc;74",
   "7,1,e6;748,1,dc;749,2,e6;7eb,7,e6;7f2,1,dc;7f3,1,e6;7fd,1,dc;816,4,e6;81b,9,e6;825,3,e6;",
   "829,5,e6;859,3,dc;898,1,e6;899,3,dc;89c,4,e6;8ca,5,e6;8cf,5,dc;8d4,e,e6;8e3,1,dc;8e4,2,e",
   "6;8e6,1,dc;8e7,2,e6;8e9,1,dc;8ea,3,e6;8ed,3,dc;8f0,1,1b;8f1,1,1c;8f2,1,1d;8f3,3,e6;8f6,1",
   ",dc;8f7,2,e6;8f9,2,dc;8fb,5,e6;93c,1,7;94d,1,9;951,1,e6;952,1,dc;953,2,e6;9bc,1,7;9cd,1,",
   "9;9fe,1,e6;a3c,1,7;a4d,1,9;abc,1,7;acd,1,9;b3c,1,7;b4d,1,9;bcd,1,9;c3c,1,7;c4d,1,9;c55,1",
   ",54;c56,1,5b;cbc,1,7;ccd,1,9;d3b,2,9;d4d,1,9;dca,1,9;e38,2,67;e3a,1,9;e48,4,6b;eb8,2,76;",
   "eba,1,9;ec8,4,7a;f18,2,dc;f35,1,dc;f37,1,dc;f39,1,d8;f71,1,81;f72,1,82;f74,1,84;f7a,4,82",
   ";f80,1,82;f82,2,e6;f84,1,9;f86,2,e6;fc6,1,dc;1037,1,7;1039,2,9;108d,1,dc;135d,3,e6;1714,",
   "2,9;1734,1,9;17d2,1,9;17dd,1,e6;18a9,1,e4;1939,1,de;193a,1,e6;193b,1,dc;1a17,1,e6;1a18,1",
   ",dc;1a60,1,9;1a75,8,e6;1a7f,1,dc;1ab0,5,e6;1ab5,6,dc;1abb,2,e6;1abd,1,dc;1abf,2,dc;1ac1,",
   "2,e6;1ac3,2,dc;1ac5,5,e6;1aca,1,dc;1acb,4,e6;1b34,1,7;1b44,1,9;1b6b,1,e6;1b6c,1,dc;1b6d,",
   "7,e6;1baa,2,9;1be6,1,7;1bf2,2,9;1c37,1,7;1cd0,3,e6;1cd4,1,1;1cd5,5,dc;1cda,2,e6;1cdc,4,d",
   "c;1ce0,1,e6;1ce2,7,1;1ced,1,dc;1cf4,1,e6;1cf8,2,e6;1dc0,2,e6;1dc2,1,dc;1dc3,7,e6;1dca,1,",
   "dc;1dcb,2,e6;1dcd,1,ea;1dce,1,d6;1dcf,1,dc;1dd0,1,ca;1dd1,25,e6;1df6,1,e8;1df7,2,e4;1df9",
   ",1,dc;1dfa,1,da;1dfb,1,e6;1dfc,1,e9;1dfd,1,dc;1dfe,1,e6;1dff,1,dc;20d0,2,e6;20d2,2,1;20d",
   "4,4,e6;20d8,3,1;20db,2,e6;20e1,1,e6;20e5,2,1;20e7,1,e6;20e8,1,dc;20e9,1,e6;20ea,2,1;20ec",
   ",4,dc;20f0,1,e6;2cef,3,e6;2d7f,1,9;2de0,20,e6;302a,1,da;302b,1,e4;302c,1,e8;302d,1,de;30",
   "2e,2,e0;3099,2,8;a66f,1,e6;a674,a,e6;a69e,2,e6;a6f0,2,e6;a806,1,9;a82c,1,9;a8c4,1,9;a8e0",
   ",12,e6;a92b,3,dc;a953,1,9;a9b3,1,7;a9c0,1,9;aab0,1,e6;aab2,2,e6;aab4,1,dc;aab7,2,e6;aabe",
   ",2,e6;aac1,1,e6;aaf6,1,9;abed,1,9;fb1e,1,1a;fe20,7,e6;fe27,7,dc;fe2e,2,e6;101fd,1,dc;102",
   "e0,1,dc;10376,5,e6;10a0d,1,dc;10a0f,1,e6;10a38,1,e6;10a39,1,1;10a3a,1,dc;10a3f,1,9;10ae5",
   ",1,e6;10ae6,1,dc;10d24,4,e6;10eab,2,e6;10efd,3,dc;10f46,2,dc;10f48,3,e6;10f4b,1,dc;10f4c",
   ",1,e6;10f4d,4,dc;10f82,1,e6;10f83,1,dc;10f84,1,e6;10f85,1,dc;11046,1,9;11070,1,9;1107f,1",
   ",9;110b9,1,9;110ba,1,7;11100,3,e6;11133,2,9;11173,1,7;111c0,1,9;111ca,1,7;11235,1,9;1123",
   "6,1,7;112e9,1,7;112ea,1,9;1133b,2,7;1134d,1,9;11366,7,e6;11370,5,e6;11442,1,9;11446,1,7;",
   "1145e,1,e6;114c2,1,9;114c3,1,7;115bf,1,9;115c0,1,7;1163f,1,9;116b6,1,9;116b7,1,7;1172b,1",
   ",9;11839,1,9;1183a,1,7;1193d,2,9;11943,1,7;119e0,1,9;11a34,1,9;11a47,1,9;11a99,1,9;11c3f",
   ",1,9;11d42,1,7;11d44,2,9;11d97,1,9;11f41,2,9;16af0,5,1;16b30,7,e6;16ff0,2,6;1bc9e,1,1;1d",
   "165,2,d8;1d167,3,1;1d16d,1,e2;1d16e,5,d8;1d17b,8,dc;1d185,5,e6;1d18a,2,dc;1d1aa,4,e6;1d2",
   "42,3,e6;1e000,7,e6;1e008,11,e6;1e01b,7,e6;1e023,2,e6;1e026,5,e6;1e08f,1,e6;1e130,7,e6;1e",
   "2ae,1,e6;1e2ec,4,e6;1e4ec,2,e8;1e4ee,1,dc;1e4ef,1,e6;1e8d0,7,dc;1e944,6,e6;1e94a,1,7"]

end AccessGate.Unicode
